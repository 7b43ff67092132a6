import XrTransport.Transport.StatusOrder

/-!
# Exceptions on the worker threads

`producer_loop` has a `try` around its loop but closes the stream in the `catch` clauses, and only
handlers are called in a `try` by `consumer_loop`, not the answer to a shutdown. That `try` keeps
the failing write of a handler inside, but leaves the status as it is. `Contained` says what must
not happen so that no exception leaves one of the two threads and no failure leaves the transport
open.
-/
namespace XrTransport.Transport.Lifecycle

/-- Nobody closes the transport while `consumer_loop` starts to answer a shutdown, no message that
is not flushed is destroyed on its thread once the status is not open or the stream fails, no other
write fails there before the transport is closed, and closing the stream after a read error does not
fail. -/
def Contained (s : State) : Label → Prop
  | .checkOpen p purpose =>
    p = .consumer ∧ purpose = .answer false → (s.threads p).overtaken = false
  | .destroy p _ | .destroyOwn p _ => p = .consumer → s.status = .opened
  | .writeFails p _ _ => p = .consumer → s.status = .closed
  | .rewrote p purpose _ => ¬(p = .consumer ∧ purpose = .answer false)
  | .rewriteFails p _ _ => p ≠ .consumer
  | .closeStream fails => fails = false
  | _ => True

/-- The condition looks at the status and at the consumer. -/
instance decidableContained (s : State) : ∀ label, Decidable (Contained s label)
  | .checkOpen p purpose =>
    inferInstanceAs
      (Decidable (p = .consumer ∧ purpose = .answer false → (s.threads p).overtaken = false))
  | .destroy p _ | .destroyOwn p _ =>
    inferInstanceAs (Decidable (p = .consumer → s.status = .opened))
  | .writeFails p _ _ => inferInstanceAs (Decidable (p = .consumer → s.status = .closed))
  | .rewrote p purpose _ =>
    inferInstanceAs (Decidable ¬(p = .consumer ∧ purpose = .answer false))
  | .rewriteFails p _ _ => inferInstanceAs (Decidable (p ≠ .consumer))
  | .closeStream fails => inferInstanceAs (Decidable (fails = false))
  | .startCheck _ | .startWrite _ | .spawn _ | .shutdownCheck _ | .startMessage _
  | .checkCreated _ _ | .enter _ _ | .flush _ _ | .flushOwn _ _ | .wrote _ _ _
  | .writeClose _ | .leave _ | .answered _ _ | .acquire _ | .release _
  | .await _ _ | .dispatch _ _ | .stop _ _ | .close _ | .begin | .test | .lock | .count _ | .break
  | .rest | .take _ _ | .finish | .poll | .read _ | .readFails | .stopReading =>
    .isTrue trivial

/-- A write fails on the thread of `consumer_loop`. -/
def Label.failsConsumer : Label → Bool
  | .writeFails p _ _ | .rewriteFails p _ _ => p = .consumer
  | _ => false

/-- A call that needs the status `OPEN` is refused on the thread of `consumer_loop`. -/
def Refused (s : State) : Label → Prop
  | .checkOpen p _ | .flushOwn p _ => p = .consumer ∧ s.status ≠ .opened
  | _ => False

/-- A place between the two looks at the status of the answer to a shutdown. -/
def Phase.answering (phase : Phase) : Prop :=
  phase = .entering (.answer false) ∨ phase = .known (.answer false)

/-- What is known of the workers. -/
structure Working (s : State) : Prop where
  /-- The looks at the status are in order. -/
  orderly : Orderly s
  /-- A transport with threads has been started. -/
  started : s.producer ≠ .idle ∨ (∃ p, (s.threads p).phase = .spawning) → s.status ≠ .created
  /-- The consumer has been started. -/
  begun : (s.threads .consumer).phase ≠ .idle → s.producer ≠ .idle
  /-- The consumer does not start the transport. -/
  other : (s.threads .consumer).phase ≠ .starting ∧ (s.threads .consumer).phase ≠ .spawning
  /-- While the consumer answers, only closing can change the status. -/
  answering : (s.threads .consumer).phase.answering →
    s.status = if (s.threads .consumer).overtaken then .closed else .opened
  /-- A read error closes the transport. -/
  failed : s.producer = .closing ∨ s.producer = .returned true → s.status = .closed

/-- The producer is started by `start`, and closes the transport after a read error. -/
theorem effect_producer (s : State) (label : Label) (possible : enabled s label) :
    (effect true s label).producer = s.producer ∨
      (s.producer = .idle ∧ ∃ p, label = .spawn p) ∨
      (s.producer ≠ .idle ∧ (effect true s label).producer ≠ .idle ∧
        ((effect true s label).producer = .closing → label = .stopReading) ∧
        ((effect true s label).producer = .returned true → s.producer = .closing)) := by
  cases label <;> simp only [enabled] at possible <;> simp only [effect] <;>
    grind -linarith [State.put, State.throw, State.refuse, State.abort, State.overtake]

/-- A thread of `consumer_loop` that has begun was there before. -/
theorem begun_after {s : State} {label : Label} (possible : enabled s label)
    (mover : label.party = some .consumer) (before : (s.threads .consumer).phase = .idle) :
    label = .begin := by
  cases label <;> simp only [Label.party, Option.some.injEq, reduceCtorEq] at mover <;>
    subst_vars <;> simp only [enabled] at possible <;> grind -linarith

/-- The consumer is at the beginning of its answer because it has just found the status `OPEN`, or
it was there before. -/
theorem answering_after {s : State} {label : Label} (possible : enabled s label)
    (mover : label.party = some .consumer)
    (after : ((effect true s label).threads .consumer).phase.answering) :
    label.writes = none ∧
      ((s.status = .opened ∧ ((effect true s label).threads .consumer).overtaken = false) ∨
        ((s.threads .consumer).phase.answering ∧
          ((effect true s label).threads .consumer).overtaken =
            (s.threads .consumer).overtaken)) := by
  cases label <;> simp only [Label.party, Option.some.injEq, reduceCtorEq] at mover <;>
    subst_vars <;> simp only [enabled] at possible <;> simp only [effect] at after ⊢ <;>
    grind -linarith [State.put_self, State.throw, State.refuse, State.overtake, State.abort,
      Phase.answering, Label.writes]

namespace Working

variable {s : State}

/-- A step lets an exception out of a worker, or fails there and leaves the transport open, exactly
if it is not contained. -/
theorem ended_iff (working : Working s) (alive : s.ended = none) {label : Label}
    (possible : enabled s label) :
    ((effect true s label).ended = some .worker ∨
      (label.failsConsumer = true ∧ (effect true s label).status ≠ .closed)) ↔
      ¬Contained s label := by
  cases label with
  | writeFails p purpose m =>
    have same : (effect true s (.writeFails p purpose m)).status = s.status := effect_status _ _ _
    have inside : (effect true s (.writeFails p purpose m)).ended ≠ some .worker := by
      simp only [effect]
      grind -linarith [State.put]
    simp [same, inside, Label.failsConsumer, Contained]
  | checkCreated p purpose =>
    -- The status is not `CREATED` any more when `consumer_loop` answers a shutdown.
    have begun : s.status = .created → ¬(p = .consumer ∧ purpose = .answer false) := by
      rintro created ⟨rfl, rfl⟩
      have look := working.answering (.inl possible)
      grind -linarith
    simp only [effect, Contained, Label.failsConsumer]
    grind -linarith [State.put, State.throw, State.abort]
  | checkOpen p purpose =>
    have look : p = .consumer ∧ purpose = .answer false →
        s.status = if (s.threads p).overtaken then .closed else .opened := by
      rintro ⟨rfl, rfl⟩
      exact working.answering (.inr possible)
    simp only [effect, Contained, Label.failsConsumer]
    grind -linarith [State.put, State.throw, State.abort]
  | spawn p =>
    have other := working.other.2
    simp only [enabled] at possible
    simp only [effect, Contained, Label.failsConsumer]
    grind -linarith [State.put, State.abort]
  | destroy p purpose =>
    simp only [effect, Contained, Label.failsConsumer]
    grind -linarith [State.put, State.refuse, State.abort]
  | destroyOwn p m =>
    simp only [effect, Contained, Label.failsConsumer]
    grind -linarith [State.put, State.refuse, State.abort]
  | rewrote p purpose m =>
    simp only [effect, Contained, Label.failsConsumer]
    grind -linarith [State.put, State.throw, State.abort]
  | rewriteFails p purpose m =>
    simp only [effect, Contained, Label.failsConsumer]
    grind -linarith [State.abort]
  | _ =>
    simp only [effect, Contained, Label.failsConsumer]
    grind -linarith [State.put, State.overtake]

/-- A timely step keeps what is known of the workers. -/
theorem step (working : Working s) {label : Label} (timely : Timely s label)
    (possible : enabled s label) : Working (effect true s label) := by
  have orderly : Orderly (effect true s label) := working.orderly.step timely possible
  have producer := effect_producer s label possible
  have forward : rank s.status ≤ rank (effect true s label).status :=
    (working.orderly.forward_iff possible).mpr timely
  have beyond : s.status ≠ .created → (effect true s label).status ≠ .created := by
    intro now later
    rw [later] at forward
    cases status : s.status <;> simp_all [rank]
  refine ⟨orderly, ?_, ?_, ?_, ?_, ?_⟩
  · rintro (running | ⟨p, spawning⟩)
    · obtain same | ⟨idle, p, rfl⟩ | ⟨idle, _⟩ := producer
      · exact beyond (working.started (.inl (same ▸ running)))
      · exact beyond (working.started (.inr ⟨p, possible⟩))
      · exact beyond (working.started (.inl idle))
    · by_cases mover : label.party = some p
      · obtain rfl | before := spawning_after possible mover spawning
        · simp [effect]
        · exact beyond (working.started (.inr ⟨p, before⟩))
      · rw [effect_of_ne true s label mover] at spawning
        exact beyond (working.started (.inr ⟨p, spawning⟩))
  · intro begun
    have running : s.producer ≠ .idle := by
      by_cases before : (s.threads .consumer).phase = .idle
      · by_cases mover : label.party = some .consumer
        · obtain rfl := begun_after possible mover before
          exact possible.2
        · rw [effect_of_ne true s label mover] at begun
          exact absurd before begun
      · exact working.begun before
    obtain same | ⟨idle, _⟩ | ⟨_, still, _⟩ := producer
    · rwa [same]
    · exact absurd idle running
    · exact still
  · by_cases mover : label.party = some .consumer
    · constructor
      · intro starting
        obtain rfl := starting_after possible mover starting
        obtain ⟨code, created⟩ := possible
        exact working.started (.inl (working.begun (by simp [code]))) created
      · intro spawning
        obtain rfl | before := spawning_after possible mover spawning
        · exact working.other.1 possible
        · exact working.other.2 before
    · rw [effect_of_ne true s label mover]
      exact working.other
  · intro answering
    by_cases mover : label.party = some .consumer
    · obtain ⟨silent, ⟨opened, fresh⟩ | ⟨before, same⟩⟩ :=
        answering_after possible mover answering
      · rw [effect_status, silent, fresh]
        exact opened
      · rw [effect_status, silent, same]
        exact working.answering before
    · rw [effect_of_ne true s label mover] at answering ⊢
      have look := working.answering answering
      rw [effect_status]
      cases label with
      | startWrite p =>
        have first := working.orderly.starting p possible
        simp only [Timely] at timely
        simp only [timely, Bool.false_eq_true, if_false] at first
        cases late : (s.threads .consumer).overtaken with
        | true => simp [look, late, rank] at first
        | false => simp [Label.writes, Label.overtakes]
      | writeClose p =>
        -- Both would have the message lock.
        have other := working.orderly.held_of_closing (.inr possible : (s.threads p).phase.closing)
        have mine : 0 < (s.threads .consumer).held := by
          have locks := (working.orderly.locked.sound .consumer).dispatch
          grind -linarith [Phase.answering]
        exact absurd (congrArg some (working.orderly.locked.exclusive other mine)) mover
      | stop | close | stopReading => simp [Label.writes, Label.overtakes]
      | _ => simpa [Label.writes, Label.overtakes] using look
  · intro failed
    have before : label = .stopReading ∨ s.status = .closed := by
      obtain same | ⟨_, p, rfl⟩ | ⟨_, _, closing, returned⟩ := producer
      · rw [same] at failed
        exact .inr (working.failed failed)
      · grind -linarith [effect, State.abort, State.put]
      · obtain failed | failed := failed
        · exact .inl (closing failed)
        · exact .inr (working.failed (.inl (returned failed)))
    obtain rfl | closed := before
    · rfl
    · rw [closed] at forward
      exact closed_of_rank forward

/-- At first no worker has been started. -/
theorem init : Working (lifecycle true).init := by
  refine ⟨Orderly.init, ?_, ?_, ?_, ?_, ?_⟩
  · rintro (running | ⟨p, spawning⟩)
    · simp [lifecycle] at running
    · cases p <;> simp [lifecycle] at spawning
  · simp [lifecycle]
  · simp [lifecycle]
  · simp [lifecycle, Phase.answering]
  · simp [lifecycle]

end Working

namespace Working

variable {s : State}

/-- A call that is refused throws into the `try` around the handlers, and nothing else happens. -/
theorem refused (working : Working s) (alive : s.ended = none) {label : Label}
    (possible : enabled s label) (contained : Contained s label) (refused : Refused s label) :
    ((effect true s label).threads .consumer).phase = .code ∧
      (effect true s label).status = s.status ∧ (effect true s label).ended = none := by
  cases label with
  | checkOpen p purpose =>
    obtain ⟨rfl, closed⟩ := refused
    have answer : purpose ≠ .answer false := by
      rintro rfl
      have look := working.answering (.inr possible)
      rw [contained ⟨rfl, rfl⟩] at look
      exact closed look
    refine ⟨?_, effect_status _ _ _, ?_⟩
    · simp [effect, closed, State.throw, answer, State.put]
    · simp [effect, closed, State.throw, answer, State.put, alive]
  | flushOwn p m =>
    obtain ⟨rfl, closed⟩ := refused
    obtain ⟨code, _⟩ := possible
    refine ⟨?_, effect_status _ _ _, ?_⟩
    · simp [effect, closed, State.put, code]
    · simp [effect, closed, State.put, alive]
  | _ => exact absurd refused id

/-- After a read error `producer_loop` goes on by closing the transport. -/
theorem closes_after_failing (failing : s.producer = .failing) {label : Label}
    (possible : enabled s label) :
    (effect true s label).producer = .failing ∨ (effect true s label).status = .closed := by
  cases label with
  | stopReading => exact .inr rfl
  | poll | read | readFails | closeStream =>
    have elsewhere := failing.symm.trans possible
    contradiction
  | _ =>
    left
    simp only [effect]
    grind -linarith [State.put, State.throw, State.refuse, State.abort, State.overtake]

end Working

/-- In every run whose steps are timely and contained no exception leaves a worker. A further step
lets one out, or is a write that fails on the consumer's thread and leaves the transport open,
exactly if it is not contained; a call that is refused there goes back to the code of a handler.
After a read error the producer does nothing but close the transport, and the status is `CLOSED`
then. With the status `CLOSED` both loops do nothing more but return, now and after further steps.
-/
theorem workers_contain_exceptions {s : State}
    (reachable : (lifecycle true).Reachable
      (fun s label => Timely s label ∧ Contained s label) s) :
    s.ended ≠ some .worker ∧
      (∀ label s', (lifecycle true).step s label = some s' →
        (s'.ended = some .worker ∨ (label.failsConsumer = true ∧ s'.status ≠ .closed) ↔
          ¬Contained s label)) ∧
      (∀ label s', (lifecycle true).step s label = some s' → Contained s label →
        Refused s label →
        (s'.threads .consumer).phase = .code ∧ s'.status = s.status ∧ s'.ended = none) ∧
      (s.producer = .failing → ∀ label s', (lifecycle true).step s label = some s' →
        s'.producer = .failing ∨ s'.status = .closed) ∧
      (s.producer = .closing ∨ s.producer = .returned true → s.status = .closed) ∧
      (s.status = .closed → Returning s ∧
        ∀ labels s', (lifecycle true).Along (fun s label => Timely s label ∧ Contained s label)
          s labels → (lifecycle true).run s labels = some s' →
          s'.status = .closed ∧ Returning s') := by
  have both : Working s ∧ s.ended ≠ some .worker := by
    refine reachable.invariant (fun s => Working s ∧ s.ended ≠ some .worker) ?_ ?_
    · exact ⟨Working.init, by simp [lifecycle]⟩
    · rintro s label s' ⟨working, -⟩ ⟨timely, contained⟩ taken
      obtain ⟨alive, possible, rfl⟩ := of_step taken
      exact ⟨working.step timely possible,
        fun out => (working.ended_iff alive possible).mp (.inl out) contained⟩
  obtain ⟨working, inside⟩ := both
  refine ⟨inside, ?_, ?_, ?_, working.failed, ?_⟩
  · intro label s' taken
    obtain ⟨alive, possible, rfl⟩ := of_step taken
    exact working.ended_iff alive possible
  · intro label s' taken contained refused
    obtain ⟨alive, possible, rfl⟩ := of_step taken
    exact working.refused alive possible contained refused
  · intro failing label s' taken
    obtain ⟨_, possible, rfl⟩ := of_step taken
    exact Working.closes_after_failing failing possible
  · intro closed
    refine ⟨.of_closed closed, ?_⟩
    intro labels s' fine ran
    have timely : (lifecycle true).Along Timely s labels := fine.mono fun _ _ both => both.1
    have forward := rank_le_of_run working.orderly timely ran
    rw [closed] at forward
    have last := closed_of_rank forward
    exact ⟨last, .of_closed last⟩

/-- `close` comes while `consumer_loop` starts to answer a shutdown. -/
def closedWhileAnswering : List Label :=
  [.startCheck (.user 0), .startWrite (.user 0), .spawn (.user 0), .begin, .poll,
    .read shutdownMessage, .test, .lock, .count false, .take shutdownMessage false,
    .dispatch .consumer false, .close (.user 0), .checkCreated .consumer (.answer false),
    .checkOpen .consumer (.answer false)]

/-- Up to the last step nothing leaves a worker and both loops are about to return; in the last one
`start_message` throws. -/
theorem workers_contain_exceptions_until_close :
    ∃ s, (lifecycle true).run (lifecycle true).init closedWhileAnswering.dropLast = some s ∧
      s.ended ≠ some .worker ∧ Returning s := by
  have ran : ((lifecycle true).run (lifecycle true).init closedWhileAnswering.dropLast).map
      State.status = some .closed := by
    decide
  obtain ⟨s, ran, closed⟩ := Option.map_eq_some_iff.mp ran
  have fine : (lifecycle true).Along (fun s label => Timely s label ∧ Contained s label)
      (lifecycle true).init closedWhileAnswering.dropLast := by
    decide
  obtain ⟨inside, _, _, _, _, returning⟩ := workers_contain_exceptions (.run .init fine ran)
  exact ⟨s, ran, inside, (returning closed).1⟩

/-- The exception of `start_message` leaves `consumer_loop`. -/
theorem closedWhileAnswering_escapes :
    ¬∀ (labels : List Label) (s : State),
      (lifecycle true).run (lifecycle true).init labels = some s → s.ended ≠ some .worker := by
  intro never
  have ran : ((lifecycle true).run (lifecycle true).init closedWhileAnswering).map State.ended =
      some (some .worker) := by
    decide
  obtain ⟨s, ran, out⟩ := Option.map_eq_some_iff.mp ran
  exact never _ s ran out

end XrTransport.Transport.Lifecycle
