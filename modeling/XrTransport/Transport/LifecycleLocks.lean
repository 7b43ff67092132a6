import XrTransport.Transport.Lifecycle

/-!
# The message lock in the lifecycle of a transport

What a step changes besides the thread that takes it, and which locks on the message mutex each
place in the code takes for granted. As a consequence only one thread at a time is between flushing
a shutdown message and writing the status for it, or is dispatching a shutdown.
-/
namespace XrTransport.Transport.Lifecycle

/-- A call of `dispatch_to_handler` that a message is sent for, and whether it is nested. -/
def Purpose.dispatch : Purpose → Option Bool
  | .answer nested => some nested
  | .call | .own => none

namespace Phase

/-- The locks of messages that library functions have. -/
def message : Phase → Nat
  | .started _ | .unwinding _ | .flushed _ | .leaving => 1
  | .writing purpose _ | .rewriting purpose _ => if purpose = .own then 0 else 1
  | .code | .starting | .spawning | .entering _ | .known _ | .allowed _ | .dispatching _
  | .stopping _ | .idle | .testing | .locking | .counting | .taking | .returned => 0

/-- A call of `dispatch_to_handler` with a shutdown message, and whether it is nested. -/
def dispatch : Phase → Option Bool
  | .dispatching nested | .stopping nested => some nested
  | .entering purpose | .known purpose | .allowed purpose | .started purpose | .unwinding purpose
  | .flushed purpose | .writing purpose _ | .rewriting purpose _ => purpose.dispatch
  | .code | .starting | .spawning | .leaving | .idle | .testing | .locking | .counting | .taking
  | .returned => none

/-- A place in `consumer_loop` without the message lock. -/
def outside : Phase → Bool
  | .idle | .testing | .locking | .returned => true
  | .code | .starting | .spawning | .entering _ | .known _ | .allowed _ | .started _ | .writing _ _
  | .rewriting _ _ | .unwinding _ | .flushed _ | .leaving | .dispatching _ | .stopping _
  | .counting | .taking => false

/-- A place in `consumer_loop` itself. -/
def loop (phase : Phase) : Bool := phase.outside || phase = .counting || phase = .taking

end Phase

/-- The locks of a thread suffice for the place where it is. -/
structure Sound (p : Party) (t : Thread) : Prop where
  /-- Messages and an iteration of `consumer_loop` have a lock each. -/
  locks : t.unsent + t.phase.message + (if p = .consumer ∧ t.phase.outside = false then 1 else 0) ≤
    t.held
  /-- So has a caller of `dispatch_to_handler`. -/
  dispatch : t.phase.dispatch ≠ none → 1 + t.phase.message ≤ t.held
  /-- Only the consumer is in `consumer_loop`, where it has no message of its own. -/
  loop : t.phase.loop = true ∨ t.phase.dispatch = some false → p = .consumer ∧ t.unsent = 0
  /-- Who sends a message of its own has one. -/
  own : ∀ m, t.phase = .writing .own m ∨ t.phase = .rewriting .own m → 0 < t.unsent
  /-- The other messages are sent in other places. -/
  shutdown : t.phase ≠ .started .own ∧ t.phase ≠ .unwinding .own ∧ t.phase ≠ .flushed .own

attribute [grind] Purpose.dispatch Phase.message Phase.dispatch Phase.outside Phase.loop

attribute [grind cases] Sound

/-- Who has locks owns the mutex, and every thread has the locks it needs. -/
structure Locked (s : State) : Prop where
  /-- The owner is the one with locks. -/
  owner : ∀ p, 0 < (s.threads p).held ↔ s.owner = some p
  /-- The locks suffice. -/
  sound : ∀ p, Sound p (s.threads p)

namespace State

variable (s : State) (p : Party)

/-- The thread that changes. -/
@[simp]
theorem put_self (t : Thread) : (s.put p t).threads p = t := by
  simp [put]

/-- The other threads. -/
theorem put_of_ne (t : Thread) {q : Party} (other : q ≠ p) :
    (s.put p t).threads q = s.threads q := by
  simp [put, other]

end State

/-- The thread that takes a step, if it is not the producer. -/
def Label.party : Label → Option Party
  | .startCheck p | .startWrite p | .spawn p | .shutdownCheck p | .startMessage p
  | .checkCreated p _ | .checkOpen p _ | .enter p _ | .flush p _ | .flushOwn p _ | .destroy p _
  | .destroyOwn p _ | .wrote p _ _ | .writeFails p _ _ | .rewrote p _ _ | .rewriteFails p _ _
  | .writeClose p | .leave p | .answered p _ | .acquire p | .release p | .await p _
  | .dispatch p _ | .stop p _ | .close p => some p
  | .begin | .test | .lock | .count _ | .break | .rest | .take _ _ | .finish => some .consumer
  | .poll | .read _ | .readFails | .stopReading | .closeStream _ => none

/-- The status a step writes. -/
def Label.writes : Label → Option Status
  | .startWrite _ => some .opened
  | .writeClose _ => some .writeClosed
  | .stop _ _ | .close _ | .stopReading => some .closed
  | _ => none

/-- Other threads may miss that a step writes the status. -/
def Label.overtakes (label : Label) : Bool :=
  label.writes = some .writeClosed || label.writes = some .closed

/-- The status a step leaves behind. -/
theorem effect_status (fatal : Bool) (s : State) (label : Label) :
    (effect fatal s label).status = label.writes.getD s.status := by
  have throw : ∀ (s : State) p t purpose, (s.throw p t purpose).status = s.status := by
    intro s p t purpose
    unfold State.throw
    split <;> rfl
  have refuse : ∀ p t purpose, (s.refuse p fatal t purpose).status = s.status := by
    intro p t purpose
    unfold State.refuse
    split
    · rfl
    · exact throw _ _ _ _
  cases label <;> simp only [effect, Label.writes, Option.getD_none, Option.getD_some] <;>
    (repeat' split) <;> first | rfl | exact throw _ _ _ _ | exact refuse _ _ _

/-- A thread that takes no step notices at most that the status is written. -/
theorem effect_of_ne (fatal : Bool) (s : State) (label : Label) {q : Party}
    (other : label.party ≠ some q) :
    (effect fatal s label).threads q =
      { s.threads q with overtaken := label.overtakes || (s.threads q).overtaken } := by
  have throw : ∀ (s : State) p t purpose, q ≠ p →
      (s.throw p t purpose).threads q = s.threads q := by
    intro s p t purpose other
    unfold State.throw
    split
    · rfl
    · exact s.put_of_ne p _ other
  have refuse : ∀ p t purpose, q ≠ p → (s.refuse p fatal t purpose).threads q = s.threads q := by
    intro p t purpose other
    unfold State.refuse
    split
    · rfl
    · exact throw _ _ _ _ other
  have put : ∀ (s : State) p t, ¬p = q → (s.put p t).threads q = s.threads q :=
    fun s p t other => s.put_of_ne p t (Ne.symm other)
  have overtaken : ∀ (s' : State) status, s'.threads q = s.threads q →
      (s'.overtake status).threads q = { s.threads q with overtaken := true } := by
    intro s' status same
    simp [State.overtake, same]
  cases label <;> simp only [Label.party, ne_eq, Option.some.injEq, reduceCtorEq,
      not_false_eq_true] at other <;> simp only [effect] <;> (repeat' split) <;>
    first
    | rfl
    | exact put _ _ _ other
    | exact throw _ _ _ _ (Ne.symm other)
    | exact refuse _ _ _ (Ne.symm other)
    | exact overtaken _ _ (put _ _ _ other)

/-- A step that leaves a thread its locks leaves it the mutex, and one that gives it locks needs it.
-/
theorem owner_after (fatal : Bool) {s : State} {label : Label} {p : Party}
    (possible : enabled s label) (mover : label.party = some p) :
    ((effect fatal s label).threads p).held = (s.threads p).held ∧
        (effect fatal s label).owner = s.owner ∨
      (((effect fatal s label).threads p).held ≤ (s.threads p).held ∨ s.available p) ∧
        (effect fatal s label).owner =
          if 0 < ((effect fatal s label).threads p).held then some p
          else if s.owner = some p then none else s.owner := by
  cases label <;> simp only [Label.party, Option.some.injEq, reduceCtorEq] at mover <;>
    subst mover <;> simp only [enabled] at possible <;> simp only [effect] <;>
    grind -linarith [State.put_self, State.put, State.throw, State.refuse, State.overtake,
      State.abort, State.available]

/-- A step of the producer touches no lock. -/
theorem owner_of_producer (fatal : Bool) (s : State) {label : Label}
    (producer : label.party = none) :
    (effect fatal s label).owner = s.owner := by
  cases label <;> simp only [Label.party, reduceCtorEq] at producer <;> simp only [effect] <;>
    (repeat' split) <;> rfl

section

variable {fatal : Bool} {s : State} {label : Label} {p : Party}
variable (sound : Sound p (s.threads p)) (possible : enabled s label)
variable (mover : label.party = some p)

include sound possible mover

/-- After a step the locks suffice for messages and an iteration. -/
theorem locks_after :
    ((effect fatal s label).threads p).unsent + ((effect fatal s label).threads p).phase.message +
        (if p = .consumer ∧ ((effect fatal s label).threads p).phase.outside = false then 1
          else 0) ≤
      ((effect fatal s label).threads p).held := by
  cases label <;> simp only [Label.party, Option.some.injEq, reduceCtorEq] at mover <;>
    subst mover <;> simp only [enabled] at possible <;> simp only [effect] <;>
    grind -linarith [State.put_self, State.throw, State.refuse, State.overtake, State.abort]

/-- After a step the locks suffice for a call of `dispatch_to_handler`. -/
theorem calls_after (dispatching : ((effect fatal s label).threads p).phase.dispatch ≠ none) :
    1 + ((effect fatal s label).threads p).phase.message ≤
      ((effect fatal s label).threads p).held := by
  cases label <;> simp only [Label.party, Option.some.injEq, reduceCtorEq] at mover <;>
    subst mover <;> simp only [enabled] at possible <;> simp only [effect] at dispatching ⊢ <;>
    grind -linarith [State.put_self, State.throw, State.refuse, State.overtake, State.abort]

/-- After a step only the consumer is in its loop. -/
theorem loop_after
    (there : ((effect fatal s label).threads p).phase.loop = true ∨
      ((effect fatal s label).threads p).phase.dispatch = some false) :
    p = .consumer ∧ ((effect fatal s label).threads p).unsent = 0 := by
  cases label <;> simp only [Label.party, Option.some.injEq, reduceCtorEq] at mover <;>
    subst mover <;> simp only [enabled] at possible <;> simp only [effect] at there ⊢ <;>
    grind -linarith [State.put_self, State.throw, State.refuse, State.overtake, State.abort]

/-- After a step who sends a message of its own has one. -/
theorem own_after {m : MessageIn}
    (there : ((effect fatal s label).threads p).phase = .writing .own m ∨
      ((effect fatal s label).threads p).phase = .rewriting .own m) :
    0 < ((effect fatal s label).threads p).unsent := by
  cases label <;> simp only [Label.party, Option.some.injEq, reduceCtorEq] at mover <;>
    subst mover <;> simp only [enabled] at possible <;> simp only [effect] at there ⊢ <;>
    grind -linarith [State.put_self, State.throw, State.refuse, State.overtake, State.abort]

/-- After a step the shutdown message is in no place of other messages. -/
theorem shutdown_after :
    ((effect fatal s label).threads p).phase ≠ .started .own ∧
      ((effect fatal s label).threads p).phase ≠ .unwinding .own ∧
      ((effect fatal s label).threads p).phase ≠ .flushed .own := by
  cases label <;> simp only [Label.party, Option.some.injEq, reduceCtorEq] at mover <;>
    subst mover <;> simp only [enabled] at possible <;> simp only [effect] <;>
    grind -linarith [State.put_self, State.throw, State.refuse, State.overtake, State.abort]

end

namespace Locked

variable {s : State}

/-- Of two threads with locks one is the other. -/
theorem exclusive (locked : Locked s) {p q : Party} (first : 0 < (s.threads p).held)
    (second : 0 < (s.threads q).held) : p = q := by
  have one := (locked.owner p).mp first
  have two := (locked.owner q).mp second
  exact Option.some.inj (one.symm.trans two)

/-- Every step leaves the locks in order. -/
theorem step {fatal : Bool} {label : Label} (locked : Locked s) (possible : enabled s label) :
    Locked (effect fatal s label) := by
  have elsewhere := fun q (other : label.party ≠ some q) => effect_of_ne fatal s label other
  constructor
  · intro q
    have before := locked.owner q
    cases mover : label.party with
    | none =>
      rw [elsewhere q (by simp [mover]), owner_of_producer fatal s mover]
      exact before
    | some p =>
      have mine := locked.owner p
      have change := owner_after fatal possible mover
      by_cases same : q = p
      · subst same
        grind -linarith
      · rw [elsewhere q (by simpa [mover] using Ne.symm same)]
        grind -linarith [State.available]
  · intro q
    have sound := locked.sound q
    by_cases mover : label.party = some q
    · exact ⟨locks_after sound possible mover, calls_after sound possible mover,
        loop_after sound possible mover, fun m => own_after sound possible mover,
        shutdown_after sound possible mover⟩
    · rw [elsewhere q mover]
      obtain ⟨locks, dispatch, loop, own, shutdown⟩ := sound
      exact ⟨locks, dispatch, loop, own, shutdown⟩

/-- Nobody has a lock at first. -/
theorem init {fatal : Bool} : Locked (lifecycle fatal).init := by
  constructor
  · intro p
    simp [lifecycle]
  · intro p
    cases p <;> constructor <;> simp [lifecycle, Phase.message, Phase.outside, Phase.dispatch,
      Phase.loop]

end Locked

/-- Who is between the two steps of `start` afterwards has just made the first one. -/
theorem starting_after {fatal : Bool} {s : State} {label : Label} {p : Party}
    (possible : enabled s label) (mover : label.party = some p)
    (after : ((effect fatal s label).threads p).phase = .starting) : label = .startCheck p := by
  cases label <;> simp only [Label.party, Option.some.injEq, reduceCtorEq] at mover <;>
    subst mover <;> simp only [enabled] at possible <;> simp only [effect] at after <;>
    grind -linarith [State.put_self, State.throw, State.refuse, State.overtake, State.abort]

/-- Who has written the status for `start` afterwards has just done so, or has not been able to go
on. -/
theorem spawning_after {fatal : Bool} {s : State} {label : Label} {p : Party}
    (possible : enabled s label) (mover : label.party = some p)
    (after : ((effect fatal s label).threads p).phase = .spawning) :
    label = .startWrite p ∨ (s.threads p).phase = .spawning := by
  cases label <;> simp only [Label.party, Option.some.injEq, reduceCtorEq] at mover <;>
    subst mover <;> simp only [enabled] at possible <;> simp only [effect] at after <;>
    grind -linarith [State.put_self, State.throw, State.refuse, State.overtake, State.abort]

end XrTransport.Transport.Lifecycle
