import XrTransport.Transport.Steps

/-!
# The message mutex

Whoever has locks on the message mutex owns it, so that two threads never have locks at the same
time; and a thread that is writing to the stream has the lock of the message it writes.
-/
namespace XrTransport.Transport

/-- A thread with an outgoing message at hand holds its lock. -/
theorem Thread.held_of_outgoing {t : Thread} {index : Nat} {m : MessageOut}
    (own : t.outgoing index = some m) : t.held[index]? = some (.out m) := by
  have inner : (t.held.takeWhile Hold.isObject)[index]? = some (.out m) := by
    unfold Thread.outgoing Thread.locals at own
    split at own
    · rename_i found
      rw [found, Option.some.inj own]
    · contradiction
  obtain ⟨inside, _⟩ := List.getElem?_eq_some_iff.mp inner
  rw [← List.takeWhile_append_dropWhile (p := Hold.isObject) (l := t.held),
    List.getElem?_append_left inside]
  exact inner

/-- What a thread does besides is unimportant for the messages at hand. -/
theorem Thread.outgoing_congr {t t' : Thread} (same : t'.held = t.held) (index : Nat) :
    t'.outgoing index = t.outgoing index := by
  simp [Thread.outgoing, Thread.locals, same]

/-- Owning the mutex, having locks on it, and writing belong together. -/
structure Locked (s : State) : Prop where
  /-- The owner is the one who has locks. -/
  owner : ∀ p, (s.threads p).held ≠ [] ↔ s.owner = some p
  /-- Who writes has the message. -/
  writing : ∀ p index rest implicit, (s.threads p).phase = .writing index rest implicit →
    ∃ m, (s.threads p).outgoing index = some m ∧ m.buffer ≠ []

namespace Locked

variable {s s' : State}

/-- Of two threads with locks one is the other. -/
theorem exclusive (locked : Locked s) {p q : Party} (first : (s.threads p).held ≠ [])
    (second : (s.threads q).held ≠ []) : p = q := by
  have one := (locked.owner p).mp first
  have two := (locked.owner q).mp second
  exact Option.some.inj (one.symm.trans two)

/-- While a thread has locks, the others have none. -/
theorem others (locked : Locked s) {p q : Party} (has : (s.threads p).held ≠ []) (other : q ≠ p) :
    (s.threads q).held = [] := by
  by_contra also
  exact other (locked.exclusive also has)

/-- A thread that has a message at hand owns the mutex. -/
theorem owner_of_outgoing (locked : Locked s) {p : Party} {index : Nat} {m : MessageOut}
    (own : (s.threads p).outgoing index = some m) : s.owner = some p := by
  refine (locked.owner p).mp ?_
  intro none
  have found := Thread.held_of_outgoing own
  simp [none] at found

/-- A thread that may own the mutex and is not writing changes its locks. -/
theorem setHeld (locked : Locked s) {p : Party} (mine : s.owner = none ∨ s.owner = some p)
    (resting : (s.threads p).phase = .running) (held : List Hold) : Locked (s.setHeld p held) := by
  constructor
  · intro q
    by_cases same : q = p
    · subst same
      by_cases empty : held = [] <;> simp [State.setHeld, empty]
    · have free : s.owner ≠ some q := by
        obtain none | some := mine
        · simp [none]
        · simpa [some] using Ne.symm same
      have nothing : (s.threads q).held = [] := by
        by_contra has
        exact free ((locked.owner q).mp has)
      rw [State.setHeld_of_ne s p held same, nothing]
      by_cases empty : held = []
      · simp [State.setHeld, empty]
      · simpa [State.setHeld, empty] using Ne.symm same
  · intro q index rest implicit writing
    by_cases same : q = p
    · subst same
      simp [State.setHeld_self, resting] at writing
    · rw [State.setHeld_of_ne s p held same] at writing ⊢
      exact locked.writing q index rest implicit writing

/-- A thread changes what it does besides, writing only a message it has. -/
theorem setPhase (locked : Locked s) (p : Party) {phase : Phase}
    (has : ∀ index rest implicit, phase = .writing index rest implicit →
      ∃ m, (s.threads p).outgoing index = some m ∧ m.buffer ≠ []) :
    Locked (s.setPhase p phase) := by
  constructor
  · intro q
    by_cases same : q = p
    · subst same
      rw [State.setPhase_self]
      exact locked.owner q
    · rw [State.setPhase_of_ne s p phase same]
      exact locked.owner q
  · intro q index rest implicit writing
    by_cases same : q = p
    · subst same
      rw [State.setPhase_self] at writing ⊢
      exact has index rest implicit writing
    · rw [State.setPhase_of_ne s p phase same] at writing ⊢
      exact locked.writing q index rest implicit writing

/-- A thread that is not writing may do so without a message. -/
theorem setPhase_quiet (locked : Locked s) (p : Party) {phase : Phase}
    (quiet : ∀ index rest implicit, phase ≠ .writing index rest implicit) :
    Locked (s.setPhase p phase) :=
  locked.setPhase p fun index rest implicit writing => absurd writing (quiet index rest implicit)

/-- No thread changes. -/
theorem congr (locked : Locked s) (threads : s'.threads = s.threads) (owner : s'.owner = s.owner) :
    Locked s' := by
  constructor
  · intro q
    rw [threads, owner]
    exact locked.owner q
  · intro q
    rw [threads]
    exact locked.writing q

end Locked

/-- Unwinding keeps the messages. -/
theorem mem_unwind {held : List Hold} {m : MessageOut} (member : .out m ∈ unwind held) :
    .out m ∈ held := by
  fun_induction unwind held with
  | case1 rest => simpa using member
  | case2 hold rest _ object ih =>
    rw [List.mem_cons] at member ⊢
    exact member.imp id ih
  | case3 hold rest _ _ => exact member
  | case4 => exact member

/-- Neither an outgoing message nor a waiting call. -/
def Hold.inert : Hold → Bool
  | .out _ | .await _ => false
  | _ => true

/-- Dispatching a message puts a function on the stack of the thread that does it, or nothing. -/
theorem State.dispatch_eq (s : State) (p : Party) (held : List Hold) (m : MessageIn) :
    ∃ pushed, (s.dispatch p held m).1 = s.setHeld p (pushed ++ held) ∧
      ∀ x ∈ pushed, x.inert = true := by
  unfold State.dispatch
  split
  · exact ⟨[.shutdown .popped], rfl, by simp [Hold.inert]⟩
  · split
    · exact ⟨[.handler m], rfl, by simp [Hold.inert]⟩
    · exact ⟨[], rfl, by simp⟩

/-- Dealing with a message in a loop changes the top of the stack. -/
theorem State.deliver_top {s : State} {p : Party} {m : MessageIn} {held : List Hold}
    {result : State × Fate} (delivered : s.deliver p m held = some result) :
    ∃ top rest new, held = top :: rest ∧ result.1 = s.setHeld p (new ++ rest) ∧
      ∀ x ∈ new, x = top ∨ x.inert = true := by
  unfold State.deliver at delivered
  split at delivered
  · rename_i header rest
    split at delivered
    · obtain rfl := Option.some.inj delivered
      exact ⟨_, rest, [.received m], rfl, rfl, by simp [Hold.inert]⟩
    · obtain rfl := Option.some.inj delivered
      obtain ⟨pushed, same, inert⟩ := s.dispatch_eq p (.await header :: rest) m
      refine ⟨_, rest, pushed ++ [.await header], rfl, by simp [same], ?_⟩
      grind -linarith
  · rename_i header rest
    obtain rfl := Option.some.inj delivered
    obtain ⟨pushed, same, inert⟩ :=
      s.dispatch_eq p (.handle header (m.header = header) :: rest) m
    refine ⟨_, rest, pushed ++ [.handle header (m.header = header)], rfl, by simp [same], ?_⟩
    grind -linarith [Hold.inert]
  · rename_i rest
    obtain rfl := Option.some.inj delivered
    obtain ⟨pushed, same, inert⟩ := s.dispatch_eq p (.consumer .dispatched :: rest) m
    refine ⟨_, rest, pushed ++ [.consumer .dispatched], rfl, by simp [same], ?_⟩
    grind -linarith [Hold.inert]
  · contradiction

/-- Dealing with a message in a loop changes locks, and makes no outgoing message. -/
theorem State.deliver_eq {s : State} {p : Party} {m : MessageIn} {held : List Hold}
    {result : State × Fate} (delivered : s.deliver p m held = some result) :
    ∃ held', result.1 = s.setHeld p held' ∧ held ≠ [] ∧ ∀ x, .out x ∈ held' → .out x ∈ held := by
  obtain ⟨top, rest, new, rfl, same, inert⟩ := State.deliver_top delivered
  refine ⟨_, same, by simp, fun x member => ?_⟩
  obtain new | old := List.mem_append.mp member
  · obtain here | not := inert _ new
    · simp [here]
    · simp [Hold.inert] at not
  · simp [old]

/-- Dispatching a shutdown changes the top of the stack and may close the transport; it starts a
message only while the status is open. -/
theorem State.proceed_top {s s' : State} {p : Party} {held : List Hold}
    (goes : s.proceed p held = some s') :
    ∃ stage rest new status, held = .shutdown stage :: rest ∧
      s' = { s.setHeld p (new ++ rest) with status := status } ∧
      (∀ x ∈ new, x.inert = true ∨ status = .opened ∧ x = .out (.opened shutdown)) ∧
      (status = s.status ∨ status = .closed ∧
        (s.status = .opened → ∃ rest, held = .shutdown .sending :: rest)) := by
  unfold State.proceed at goes
  split at goes
  · rename_i rest
    by_cases opened : s.status = .opened
    · simp only [opened, if_true, Option.some.injEq] at goes
      obtain rfl := goes
      exact ⟨_, rest, [.shutdown .answering], s.status, rfl, rfl, by simp [Hold.inert], .inl rfl⟩
    · simp only [opened, if_false, Option.some.injEq] at goes
      obtain rfl := goes
      exact ⟨_, rest, [], _, rfl, rfl, by simp, .inr ⟨rfl, fun now => absurd now opened⟩⟩
  · rename_i rest
    by_cases opened : s.status = .opened
    · simp only [opened, if_true, Option.some.injEq] at goes
      obtain rfl := goes
      refine ⟨_, rest, [.out (.opened shutdown), .shutdown .sending], s.status, rfl, rfl, ?_,
        .inl rfl⟩
      simp [Hold.inert, opened]
    · simp only [opened, if_false, Option.some.injEq] at goes
      obtain rfl := goes
      exact ⟨_, rest, [], s.status, rfl, rfl, by simp, .inl rfl⟩
  · rename_i rest
    obtain rfl := Option.some.inj goes
    exact ⟨_, rest, [], _, rfl, rfl, by simp, .inr ⟨rfl, fun _ => ⟨rest, rfl⟩⟩⟩
  · contradiction

/-- Dispatching a shutdown changes locks and may close the transport. -/
theorem State.proceed_eq {s s' : State} {p : Party} {held : List Hold}
    (goes : s.proceed p held = some s') :
    ∃ held' status, s' = { s.setHeld p held' with status := status } ∧ held ≠ [] ∧
      (∀ x, .out x ∈ held' → .out x ∈ held ∨ status = .opened ∧ x = .opened shutdown) ∧
      (status = s.status ∨ status = .closed ∧
        (s.status = .opened → ∃ rest, held = .shutdown .sending :: rest)) := by
  obtain ⟨stage, rest, new, status, rfl, same, inert, kind⟩ := State.proceed_top goes
  refine ⟨_, status, same, by simp, fun x member => ?_, kind⟩
  obtain new | old := List.mem_append.mp member
  · obtain not | ⟨opened, here⟩ := inert _ new
    · simp [Hold.inert] at not
    · exact .inr ⟨opened, Hold.out.inj here⟩
  · exact .inl (by simp [old])

/-- A call that has the mutex changes locks or handlers; only `start_message` makes a message. -/
theorem State.grant_eq (s : State) (p : Party) (request : Request) :
    (∃ hold, s.grant p request = s.setHeld p (hold :: (s.threads p).held) ∧
      ∀ m, hold = .out m → ∃ header, request = .startMessage header ∧ m = .opened header) ∨
      ∃ handlers, s.grant p request = { s with handlers } := by
  cases request with
  | startMessage header =>
    refine .inl ⟨_, rfl, fun m made => ⟨header, rfl, ?_⟩⟩
    exact (Hold.out.inj made).symm
  | awaitMessage header => exact .inl ⟨_, rfl, by simp⟩
  | handleMessage header => exact .inl ⟨_, rfl, by simp⟩
  | acquireMessageLock => exact .inl ⟨_, rfl, by simp⟩
  | registerHandler header => exact .inr ⟨_, rfl⟩
  | unregisterHandler header => exact .inr ⟨_, rfl⟩
  | clearHandlers => exact .inr ⟨_, rfl⟩

/-- Taking bytes of a message at hand changes the phase and the link. -/
theorem State.write_eq (s : State) (p : Party) (index : Nat) (rest : List UInt8) (implicit : Bool)
    (count : Nat) : ∃ link, s.write p index rest implicit count =
      { s.setPhase p (.writing index (rest.drop count) implicit) with link } := by
  unfold State.write
  dsimp only
  split
  · split
    · exact ⟨_, rfl⟩
    · exact ⟨_, rfl⟩
  · exact ⟨s.link, rfl⟩

/-- The bytes the stream takes are those of the message; with the last ones it is flushed. -/
theorem State.write_own {s : State} {p : Party} {index : Nat} {m : MessageOut}
    (own : (s.threads p).outgoing index = some m) (rest : List UInt8) (implicit : Bool)
    (count : Nat) : s.write p index rest implicit count =
      { s.setPhase p (.writing index (rest.drop count) implicit) with
        link :=
          if count = rest.length then
            { s.link with
              written := s.link.written ++ rest.take count
              unfinished := []
              flushed := s.link.flushed ++ [m.message] }
          else
            { s.link with
              written := s.link.written ++ rest.take count
              unfinished := s.link.unfinished ++ rest.take count } } := by
  have own' : ((s.setPhase p (.writing index (rest.drop count) implicit)).threads p).outgoing
      index = some m := by
    rw [← own]
    exact Thread.outgoing_congr (by rw [State.setPhase_self]) index
  unfold State.write
  simp only [own']
  split
  · rfl
  · rfl

/-- Only one thread is writing. -/
theorem Locked.alone {s : State} (locked : Locked s) {p q : Party} {index index' : Nat}
    {rest rest' : List UInt8} {implicit implicit' : Bool}
    (first : (s.threads p).phase = .writing index rest implicit)
    (second : (s.threads q).phase = .writing index' rest' implicit') : q = p := by
  obtain ⟨m, own, _⟩ := locked.writing p _ _ _ first
  obtain ⟨m', own', _⟩ := locked.writing q _ _ _ second
  have both := (locked.owner_of_outgoing own').symm.trans (locked.owner_of_outgoing own)
  exact Option.some.inj both

/-- Every step keeps the mutex in order. -/
theorem Locked.step {s s' : State} {action : Action} (locked : Locked s)
    (step : Step s action s') : Locked s' := by
  cases step with
  | start _ => exact locked.congr rfl rfl
  | @call p request _ _ => exact locked.setPhase_quiet p (by simp)
  | @announce p request _ =>
    have counted : Locked (s.setPhase p (.waiting request)) := locked.setPhase_quiet p (by simp)
    exact counted.congr rfl rfl
  | @acquire p request _ free =>
    have ready : Locked { s.setPhase p .running with numWaiting := s.numWaiting - 1 } :=
      (locked.setPhase_quiet p (by simp)).congr rfl rfl
    obtain ⟨hold, same, _⟩ | ⟨handlers, same⟩ := State.grant_eq _ p request
    · rw [same]
      exact ready.setHeld free (by simp [State.setPhase]) _
    · rw [same]
      exact ready.congr rfl rfl
  | append bytes runs own =>
    exact locked.setHeld (.inr (locked.owner_of_outgoing own)) (Thread.runsCode_running runs) _
  | flushNothing _ _ => exact locked
  | flush _ own unsent _ =>
    refine locked.setPhase _ ?_
    intro index rest implicit writing
    obtain ⟨rfl, _, _⟩ := Phase.writing.inj writing
    exact ⟨_, own, unsent⟩
  | flushRefused running own _ _ =>
    exact locked.setHeld (.inr (locked.owner_of_outgoing own)) running _
  | destroy running own _ =>
    exact locked.setHeld (.inr (locked.owner_of_outgoing own)) running _
  | destroyUnsent _ own unsent _ =>
    refine locked.setPhase _ ?_
    intro index rest implicit writing
    obtain ⟨rfl, _, _⟩ := Phase.writing.inj writing
    exact ⟨_, own, unsent⟩
  | destroyRefused _ _ _ _ => exact locked.congr rfl rfl
  | @write p index count rest implicit writing _ _ _ =>
    obtain ⟨link, same⟩ := s.write_eq p index rest implicit count
    have onward : Locked (s.setPhase p (.writing index (rest.drop count) implicit)) := by
      refine locked.setPhase p ?_
      intro index' rest' implicit' writing'
      obtain ⟨rfl, _, _⟩ := Phase.writing.inj writing'
      exact locked.writing p _ _ _ writing
    rw [same]
    exact onward.congr rfl rfl
  | @wrote p index m writing own =>
    have done : Locked (s.setPhase p .running) := locked.setPhase_quiet p (by simp)
    exact done.setHeld (.inr (locked.owner_of_outgoing own)) (by simp [State.setPhase]) _
  | @wroteImplicitly p index writing =>
    obtain ⟨m, own, _⟩ := locked.writing p _ _ _ writing
    have done : Locked (s.setPhase p .running) := locked.setPhase_quiet p (by simp)
    exact done.setHeld (.inr (locked.owner_of_outgoing own)) (by simp [State.setPhase]) _
  | @writeFailed p index rest writing _ =>
    obtain ⟨m, own, _⟩ := locked.writing p _ _ _ writing
    have done : Locked (s.setPhase p .running) := locked.setPhase_quiet p (by simp)
    have thrown := done.setHeld (.inr (locked.owner_of_outgoing own)) (by simp [State.setPhase])
      (unwind (s.threads p).held)
    exact thrown.congr rfl rfl
  | @writeFailedImplicitly p index rest writing _ =>
    have done : Locked (s.setPhase p .running) := locked.setPhase_quiet p (by simp)
    exact done.congr rfl rfl
  | @release p index hold runs own _ =>
    refine locked.setHeld (.inr ?_) (Thread.runsCode_running runs) _
    refine (locked.owner p).mp ?_
    intro nothing
    simp [Thread.locals, nothing] at own
  | @take p m queue result _ running _ delivered =>
    obtain ⟨held', same, has, _⟩ := State.deliver_eq delivered
    have after := locked.setHeld (.inr ((locked.owner p).mp has)) running held'
    rw [same]
    exact after.congr rfl rfl
  | @interrupt p hold rest running _ held _ =>
    exact locked.setHeld (.inr ((locked.owner p).mp (by simp [held]))) running _
  | @finish p hold rest running held _ =>
    exact locked.setHeld (.inr ((locked.owner p).mp (by simp [held]))) running _
  | @proceed p _ running goes =>
    obtain ⟨held', status, same, has, _⟩ := State.proceed_eq goes
    have after := locked.setHeld (.inr ((locked.owner p).mp has)) running held'
    rw [same]
    exact after.congr rfl rfl
  | writeClose => exact locked.congr rfl rfl
  | close => exact locked.congr rfl rfl
  | lock free running _ => exact locked.setHeld (.inl free) running _
  | yield running held _ =>
    exact locked.setHeld (.inr ((locked.owner _).mp (by simp [held]))) running _
  | check running held _ =>
    exact locked.setHeld (.inr ((locked.owner _).mp (by simp [held]))) running _
  | rest running held =>
    exact locked.setHeld (.inr ((locked.owner _).mp (by simp [held]))) running _
  | arrive _ => exact locked.congr rfl rfl
  | poll _ => exact locked.congr rfl rfl
  | receive _ => exact locked.congr rfl rfl
  | enqueue _ => exact locked.congr rfl rfl
  | receiveFailed => exact locked.congr rfl rfl

/-- At first nobody has a lock. -/
theorem locked_init : Locked transport.init := by
  constructor
  · intro p
    simp [transport]
  · intro p index rest implicit writing
    simp [transport] at writing

/-- The mutex is in order in every reachable state. -/
theorem locked_of_reachable {allowed : State → Action → Prop} {s : State}
    (reachable : transport.Reachable allowed s) : Locked s := by
  refine reachable.invariant Locked locked_init ?_
  intro s action s' locked _ taken
  exact locked.step (step_of_transport taken)

end XrTransport.Transport
