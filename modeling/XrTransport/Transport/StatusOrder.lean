import XrTransport.Transport.LifecycleLocks

/-!
# The status moves forward

`start` and `shutdown` look at the status and write it in two steps. As long as nobody writes
`WRITE_CLOSED` or `CLOSED` in between, every step leaves the status where it is or moves it forward;
and a step that does not is a late one of these two. The answer to a shutdown needs no such
condition, since it is given under the message lock from its look at the status to its write.
-/
namespace XrTransport.Transport.Lifecycle

/-- A thread whose `shutdown` has found the status `OPEN` for the last time and will write it. -/
def Phase.closing (phase : Phase) : Prop :=
  (∃ m, phase = .writing .call m) ∨ phase = .flushed .call

/-- Neither `start` nor `shutdown` writes a status that has been closed since it last looked. -/
def Timely (s : State) : Label → Prop
  | .startWrite p | .writeClose p => (s.threads p).overtaken = false
  | _ => True

/-- The condition looks at one thread. -/
instance decidableTimely (s : State) (label : Label) : Decidable (Timely s label) := by
  unfold Timely
  split <;> infer_instance

/-- What the two looks at the status still say. -/
structure Orderly (s : State) : Prop where
  /-- The locks are in order. -/
  locked : Locked s
  /-- `start` has found `CREATED`. -/
  starting : ∀ p, (s.threads p).phase = .starting →
    if (s.threads p).overtaken then rank .opened < rank s.status else rank s.status ≤ rank .opened
  /-- `shutdown` has found `OPEN`. -/
  closing : ∀ p, (s.threads p).phase.closing →
    s.status = if (s.threads p).overtaken then .closed else .opened

namespace Orderly

variable {s s' : State}

/-- A thread between its last look and its write has the message lock. -/
theorem held_of_closing (orderly : Orderly s) {p : Party} (closing : (s.threads p).phase.closing) :
    0 < (s.threads p).held := by
  have locks := (orderly.locked.sound p).locks
  obtain ⟨m, writing⟩ | flushed := closing
  · rw [writing] at locks
    simp only [Phase.message] at locks
    grind -linarith
  · rw [flushed] at locks
    simp only [Phase.message] at locks
    omega

/-- A step keeps the status where it is or moves it forward exactly if it is timely. -/
theorem forward_iff (orderly : Orderly s) {fatal : Bool} {label : Label}
    (possible : enabled s label) :
    rank s.status ≤ rank (effect fatal s label).status ↔ Timely s label := by
  rw [effect_status]
  cases label with
  | startWrite p =>
    have look := orderly.starting p possible
    simp only [Label.writes, Option.getD_some, Timely]
    cases late : (s.threads p).overtaken with
    | true =>
      simp only [late, if_true] at look
      simp only [Bool.true_eq_false, iff_false, Nat.not_le]
      exact look
    | false =>
      simp only [late, Bool.false_eq_true, if_false] at look
      simpa using look
  | writeClose p =>
    have look := orderly.closing p (.inr possible)
    simp only [Label.writes, Option.getD_some, Timely]
    cases late : (s.threads p).overtaken <;> simp [look, late, rank]
  | stop p nested => cases status : s.status <;> simp [Label.writes, Timely, rank]
  | close p => cases status : s.status <;> simp [Label.writes, Timely, rank]
  | stopReading => cases status : s.status <;> simp [Label.writes, Timely, rank]
  | _ => simp [Label.writes, Timely]

end Orderly

/-- Who is between the two steps of `shutdown` afterwards has just found the status `OPEN`, or was
there before. -/
theorem closing_after {fatal : Bool} {s : State} {label : Label} {p : Party}
    (possible : enabled s label) (mover : label.party = some p)
    (after : ((effect fatal s label).threads p).phase.closing) :
    label.writes = none ∧
      ((s.status = .opened ∧ ((effect fatal s label).threads p).overtaken = false) ∨
        ((s.threads p).phase.closing ∧
          ((effect fatal s label).threads p).overtaken = (s.threads p).overtaken)) := by
  cases label <;> simp only [Label.party, Option.some.injEq, reduceCtorEq] at mover <;>
    subst mover <;> simp only [enabled] at possible <;> simp only [effect] at after ⊢ <;>
    grind -linarith [State.put_self, State.throw, State.refuse, State.overtake, State.abort,
      Phase.closing, Label.writes]

namespace Orderly

/-- A timely step keeps what the looks at the status say. -/
theorem step {s : State} (orderly : Orderly s) {fatal : Bool} {label : Label}
    (timely : Timely s label)
    (possible : enabled s label) : Orderly (effect fatal s label) := by
  refine ⟨orderly.locked.step possible, ?_, ?_⟩
  · intro p starting
    by_cases mover : label.party = some p
    · obtain rfl := starting_after possible mover starting
      obtain ⟨_, created⟩ := possible
      simp [effect, State.put, created, rank]
    · rw [effect_of_ne fatal s label mover] at starting ⊢
      have look := orderly.starting p starting
      rw [effect_status]
      cases label with
      | startWrite q =>
        have first := orderly.starting q possible
        simp only [Timely] at timely
        simp only [timely, Bool.false_eq_true, if_false] at first
        simp only [Label.writes, Label.overtakes, Option.getD_some]
        cases late : (s.threads p).overtaken with
        | true =>
          simp only [late, if_true] at look
          omega
        | false => simp
      | writeClose | stop | close | stopReading => simp [Label.writes, Label.overtakes, rank]
      | _ => simpa [Label.writes, Label.overtakes] using look
  · intro p closing
    by_cases mover : label.party = some p
    · obtain ⟨silent, ⟨opened, fresh⟩ | ⟨before, same⟩⟩ := closing_after possible mover closing
      · rw [effect_status, silent, fresh]
        exact opened
      · rw [effect_status, silent, same]
        exact orderly.closing p before
    · rw [effect_of_ne fatal s label mover] at closing ⊢
      have look := orderly.closing p closing
      rw [effect_status]
      cases label with
      | startWrite q =>
        have first := orderly.starting q possible
        simp only [Timely] at timely
        simp only [timely, Bool.false_eq_true, if_false] at first
        cases late : (s.threads p).overtaken with
        | true => simp [look, late, rank] at first
        | false => simp [Label.writes, Label.overtakes]
      | writeClose q =>
        -- Both would have the message lock.
        have mine := orderly.held_of_closing closing
        have other := orderly.held_of_closing (.inr possible : (s.threads q).phase.closing)
        exact absurd (congrArg some (orderly.locked.exclusive other mine)) mover
      | stop | close | stopReading => simp [Label.writes, Label.overtakes]
      | _ => simpa [Label.writes, Label.overtakes] using look

/-- At first nobody has looked. -/
theorem init {fatal : Bool} : Orderly (lifecycle fatal).init := by
  refine ⟨Locked.init, ?_, ?_⟩
  · intro p starting
    cases p <;> simp [lifecycle] at starting
  · intro p closing
    cases p <;> simp [lifecycle, Phase.closing] at closing

/-- What the looks say holds in every state that timely steps lead to. -/
theorem of_reachable {s : State} {fatal : Bool} {allowed : State → Label → Prop}
    (timely : ∀ s label, allowed s label → Timely s label)
    (reachable : (lifecycle fatal).Reachable allowed s) : Orderly s := by
  refine reachable.invariant Orderly init ?_
  intro s label s' orderly fine taken
  obtain ⟨_, possible, rfl⟩ := of_step taken
  exact orderly.step (timely s label fine) possible

end Orderly

/-- In a run of timely steps the status never moves backward, and `CLOSED` is final. -/
theorem rank_le_of_run {fatal : Bool} {s s' : State} {labels : List Label} (orderly : Orderly s)
    (timely : (lifecycle fatal).Along Timely s labels)
    (ran : (lifecycle fatal).run s labels = some s') : rank s.status ≤ rank s'.status := by
  induction labels generalizing s with
  | nil =>
    obtain rfl := Option.some.inj ran
    exact Nat.le_refl _
  | cons label labels ih =>
    obtain ⟨middle, taken, ran⟩ := Option.bind_eq_some_iff.mp ran
    rw [System.Along, taken] at timely
    obtain ⟨_, possible, rfl⟩ := of_step taken
    calc
      rank s.status ≤ rank (effect fatal s label).status :=
        (orderly.forward_iff possible).mpr timely.1
      _ ≤ rank s'.status := ih (orderly.step timely.1 possible) timely.2 ran

/-- `CLOSED` is the last status. -/
theorem closed_of_rank {status : Status} (last : rank .closed ≤ rank status) :
    status = .closed := by
  cases status <;> simp [rank] at last ⊢

/-- The loops of the two threads do nothing more but return: they find the status `CLOSED` at their
tests, and nothing is taken from the queue any more. -/
structure Returning (s : State) : Prop where
  /-- The test of `producer_loop`. -/
  producer : ∀ s', (lifecycle true).step s .poll = some s' → s'.producer = .returned false
  /-- The test of `consumer_loop`. -/
  consumer : ∀ s', (lifecycle true).step s .test = some s' →
    (s'.threads .consumer).phase = .returned
  /-- `consumer_loop` takes nothing from the queue and does not wait for anything. -/
  taking : (∀ m handled, (lifecycle true).step s (.take m handled) = none) ∧
    (lifecycle true).step s .rest = none
  /-- `await_any_message` takes nothing either. -/
  awaiting : ∀ p m, (lifecycle true).step s (.await p m) = none

/-- With the status `CLOSED` the loops do nothing more but return. -/
theorem Returning.of_closed {s : State} (closed : s.status = .closed) : Returning s := by
  constructor
  · intro s' taken
    obtain ⟨_, _, rfl⟩ := of_step taken
    simp [effect, closed]
  · intro s' taken
    obtain ⟨_, _, rfl⟩ := of_step taken
    simp [effect, closed]
  · exact ⟨fun m handled => by simp [lifecycle, enabled, closed],
      by simp [lifecycle, enabled, closed]⟩
  · exact fun p m => by simp [lifecycle, enabled, closed]

/-- In every run whose steps are all timely: a further step keeps the status where it is or moves it
forward exactly if it is timely; along further timely steps the status never moves backward; and
once it is `CLOSED` it stays so, and the loops of both threads do nothing more but return. -/
theorem status_moves_forward {s : State} (reachable : (lifecycle true).Reachable Timely s) :
    (∀ label s', (lifecycle true).step s label = some s' →
      (rank s.status ≤ rank s'.status ↔ Timely s label)) ∧
    ∀ labels s', (lifecycle true).Along Timely s labels →
      (lifecycle true).run s labels = some s' →
      rank s.status ≤ rank s'.status ∧
      (s.status = .closed → s'.status = .closed ∧ Returning s') := by
  have orderly := Orderly.of_reachable (fun _ _ timely => timely) reachable
  refine ⟨?_, ?_⟩
  · intro label s' taken
    obtain ⟨_, possible, rfl⟩ := of_step taken
    exact orderly.forward_iff possible
  · intro labels s' timely ran
    have forward := rank_le_of_run orderly timely ran
    refine ⟨forward, ?_⟩
    intro closed
    rw [closed] at forward
    have last := closed_of_rank forward
    exact ⟨last, .of_closed last⟩

/-- `close` comes between the flush and the status write of `shutdown`. -/
def closedWithinShutdown : List Label :=
  [.startCheck (.user 0), .startWrite (.user 0), .spawn (.user 0), .shutdownCheck (.user 0),
    .checkCreated (.user 0) .call, .checkOpen (.user 0) .call, .enter (.user 0) .call,
    .flush (.user 0) .call, .wrote (.user 0) .call shutdownMessage, .close (.user 1),
    .writeClose (.user 0)]

/-- Up to the close every step is timely, and the theorem tells that the last one is not. -/
theorem status_moves_forward_until_close :
    ∃ s, (lifecycle true).run (lifecycle true).init closedWithinShutdown.dropLast = some s ∧
      ∀ s', (lifecycle true).step s (.writeClose (.user 0)) = some s' →
        ¬rank s.status ≤ rank s'.status := by
  have ran : ((lifecycle true).run (lifecycle true).init closedWithinShutdown.dropLast).map
      (fun s => (s.threads (.user 0)).overtaken) = some true := by
    decide
  obtain ⟨s, ran, late⟩ := Option.map_eq_some_iff.mp ran
  have timely : (lifecycle true).Along Timely (lifecycle true).init
      closedWithinShutdown.dropLast := by
    decide
  refine ⟨s, ran, fun s' taken forward => ?_⟩
  have now := ((status_moves_forward (.run .init timely ran)).1 _ s' taken).mp forward
  rw [Timely, late] at now
  contradiction

/-- The status goes back from `CLOSED` to `WRITE_CLOSED`. -/
theorem closedWithinShutdown_goes_back :
    ¬∀ (labels : List Label) (label : Label) (s s' : State),
      (lifecycle true).run (lifecycle true).init labels = some s →
      (lifecycle true).step s label = some s' → rank s.status ≤ rank s'.status := by
  intro never
  have ran : ((lifecycle true).run (lifecycle true).init closedWithinShutdown.dropLast).map
      (fun s => (s.status, ((lifecycle true).step s (.writeClose (.user 0))).map State.status)) =
      some (.closed, some .writeClosed) := by
    decide
  obtain ⟨s, ran, seen⟩ := Option.map_eq_some_iff.mp ran
  simp only [Prod.mk.injEq, Option.map_eq_some_iff] at seen
  obtain ⟨before, s', taken, after⟩ := seen
  have moved := never _ _ _ _ ran taken
  rw [before, after] at moved
  simp [rank] at moved

end XrTransport.Transport.Lifecycle
