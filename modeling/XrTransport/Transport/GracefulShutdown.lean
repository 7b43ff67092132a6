import XrTransport.Transport.LifecycleLocks

/-!
# Graceful shutdown

Two transports at the ends of a stream, neither of which is closed or meets an error. Each end
announces the end of what it sends once, under the message lock, and sends nothing afterwards; it is
closed by the announcement of the other end, which is the last message it takes from its queue.
-/
namespace XrTransport.Transport.Lifecycle

/-- The shutdown message has been flushed. -/
def State.Announced (s : State) : Prop := ∃ m ∈ s.flushed, m.header = shutdown

/-- What a step adds to the messages flushed. -/
def Label.sends : Label → List MessageIn
  | .wrote _ _ m | .rewrote _ _ m => [m]
  | _ => []

/-- What a step adds to the messages received. -/
def Label.receives : Label → List MessageIn
  | .read m => [m]
  | _ => []

/-- The messages flushed after a step. -/
theorem effect_flushed (fatal : Bool) (s : State) (label : Label) :
    (effect fatal s label).flushed = s.flushed ++ label.sends := by
  cases label <;> simp only [effect, Label.sends, List.append_nil] <;>
    grind -linarith [State.put, State.throw, State.refuse, State.abort, State.overtake]

/-- A step takes messages from the front of the queue, and only reading adds to it. -/
theorem effect_received (fatal : Bool) {s : State} {label : Label} (possible : enabled s label) :
    (effect fatal s label).taken ++ (effect fatal s label).queue =
      s.taken ++ s.queue ++ label.receives := by
  have moved : ∀ m, s.queue.head? = some m →
      s.taken ++ [m] ++ s.queue.tail = s.taken ++ s.queue := by
    intro m first
    obtain ⟨rest, queue⟩ := List.head?_eq_some_iff.mp first
    simp [queue]
  cases label with
  | await p m =>
    have next := moved m possible.2.2.2
    simp only [effect, Label.receives, List.append_nil]
    grind -linarith [State.put]
  | take m handled =>
    have next := moved m possible.2.2
    simp only [effect, Label.receives, List.append_nil]
    grind -linarith [State.put]
  | read m => simp [effect, Label.receives]
  | _ =>
    simp only [Label.receives, List.append_nil]
    grind -linarith [effect, State.put, State.throw, State.refuse, State.abort, State.overtake]

/-- The messages taken stay taken. -/
theorem taken_grows (fatal : Bool) (s : State) (label : Label) :
    s.taken <+: (effect fatal s label).taken := by
  cases label <;> simp only [effect] <;>
    grind -linarith [State.put, State.throw, State.refuse, State.abort, State.overtake,
      List.prefix_append]

/-- A step without errors of the stream and without `close`; only the library sends shutdown
messages. -/
def Label.Graceful : Label → Prop
  | .close _ | .readFails | .writeFails _ _ _ | .rewriteFails _ _ _ => False
  | .flushOwn _ m | .destroyOwn _ m => m.header ≠ shutdown
  | _ => True

/-- The condition looks at the step alone. -/
instance decidableGraceful (label : Label) : Decidable label.Graceful := by
  unfold Label.Graceful
  split <;> infer_instance

/-- What is known of an end that is not closed from outside. -/
structure Graceful (s : State) : Prop where
  /-- The locks are in order. -/
  locked : Locked s
  /-- The transport has been started. -/
  started : s.status ≠ .created ∧ ∀ p, (s.threads p).phase ≠ .starting ∧
    (s.threads p).phase ≠ .spawning
  /-- Reading meets no error. -/
  reading : s.producer ≠ .failing ∧ s.producer ≠ .closing
  /-- Whoever writes does so before the announcement. -/
  writing : ∀ p purpose m,
    (s.threads p).phase = .writing purpose m ∨ (s.threads p).phase = .rewriting purpose m →
      s.status = .opened ∧ ¬s.Announced ∧ (purpose = .own ↔ m.header ≠ shutdown)
  /-- A shutdown message that could not be flushed is not flushed later. -/
  unwinding : ∀ p purpose,
    ((s.threads p).phase = .unwinding purpose → s.status ≠ .opened) ∧
      ∀ m, (s.threads p).phase = .rewriting purpose m → purpose = .own
  /-- Whoever has announced the end has not written the status. -/
  flushed : ∀ p purpose, (s.threads p).phase = .flushed purpose →
    s.status = .opened ∧ s.Announced
  /-- Who closes the transport has announced the end. -/
  stopping : ∀ p nested, (s.threads p).phase = .stopping nested → s.Announced
  /-- The status leaves `OPEN` after the announcement. -/
  left : s.status ≠ .opened → s.Announced
  /-- While it has not, somebody is about to write it. -/
  pending : s.Announced → s.status = .opened →
    ∃ p, (∃ purpose, (s.threads p).phase = .flushed purpose) ∨
      ∃ nested, (s.threads p).phase = .stopping nested
  /-- Nothing is sent after the announcement. -/
  last : ∀ m ∈ s.flushed.dropLast, m.header ≠ shutdown
  /-- Who deals with a shutdown has taken it from the queue. -/
  popped : (∃ p, (s.threads p).phase.dispatch ≠ none) ∨ s.status = .closed →
    ∃ m ∈ s.taken, m.header = shutdown

/-- Who writes afterwards has found the status `OPEN`, with the lock of a message at hand. -/
theorem writing_after {fatal : Bool} {s : State} {label : Label} {p : Party} {purpose : Purpose}
    {m : MessageIn} (possible : enabled s label) (graceful : label.Graceful)
    (own : ∀ purpose m, (s.threads p).phase = .rewriting purpose m → purpose = .own)
    (mover : label.party = some p)
    (after : ((effect fatal s label).threads p).phase = .writing purpose m ∨
      ((effect fatal s label).threads p).phase = .rewriting purpose m) :
    label.writes = none ∧ label.sends = [] ∧ s.status = .opened ∧
      ((((s.threads p).phase = .started purpose ∨ (s.threads p).phase = .unwinding purpose) ∧
          m = shutdownMessage) ∨
        ((s.threads p).phase = .code ∧ 0 < (s.threads p).unsent ∧ purpose = .own ∧
          m.header ≠ shutdown)) := by
  cases label <;> simp only [Label.party, Option.some.injEq, reduceCtorEq] at mover <;>
    subst mover <;> simp only [enabled] at possible <;> simp only [effect] at after <;>
    grind -linarith [State.put_self, State.throw, State.refuse, State.overtake, State.abort,
      Label.writes, Label.sends, Label.Graceful]

/-- Who unwinds afterwards has not found the status `OPEN`. -/
theorem unwinding_after {fatal : Bool} {s : State} {label : Label} {p : Party} {purpose : Purpose}
    (possible : enabled s label) (graceful : label.Graceful) (mover : label.party = some p)
    (after : ((effect fatal s label).threads p).phase = .unwinding purpose) :
    label.writes = none ∧ s.status ≠ .opened := by
  cases label <;> simp only [Label.party, Option.some.injEq, reduceCtorEq] at mover <;>
    subst mover <;> simp only [enabled] at possible <;> simp only [effect] at after <;>
    grind -linarith [State.put_self, State.throw, State.refuse, State.overtake, State.abort,
      Label.writes, Label.Graceful]

/-- Who has flushed the shutdown message afterwards was writing it, or has been there before. -/
theorem flushed_after {fatal : Bool} {s : State} {label : Label} {p : Party} {purpose : Purpose}
    (possible : enabled s label) (mover : label.party = some p)
    (after : ((effect fatal s label).threads p).phase = .flushed purpose) :
    label.writes = none ∧ purpose ≠ .own ∧
      ∃ m ∈ label.sends, (s.threads p).phase = .writing purpose m := by
  cases label with
  | wrote q purpose' m =>
    simp only [Label.party, Option.some.injEq] at mover
    subst mover
    simp only [enabled] at possible
    simp only [effect] at after
    by_cases own : purpose' = .own
    · simp [own] at after
    · simp only [own, if_false, State.put_self, Phase.flushed.injEq] at after
      subst after
      exact ⟨rfl, own, m, by simp [Label.sends], possible⟩
  | _ =>
    simp only [Label.party, Option.some.injEq, reduceCtorEq] at mover
    all_goals
      subst mover
      simp only [enabled] at possible
      simp only [effect] at after
      grind -linarith [State.put_self, State.throw, State.refuse, State.overtake, State.abort]

/-- Who closes the transport afterwards has answered, or has not found the status `OPEN`. -/
theorem stopping_after {fatal : Bool} {s : State} {label : Label} {p : Party} {nested : Bool}
    (possible : enabled s label) (mover : label.party = some p)
    (after : ((effect fatal s label).threads p).phase = .stopping nested) :
    (s.threads p).phase = .flushed (.answer nested) ∨ s.status ≠ .opened := by
  cases label <;> simp only [Label.party, Option.some.injEq, reduceCtorEq] at mover <;>
    subst mover <;> simp only [enabled] at possible <;> simp only [effect] at after <;>
    grind -linarith [State.put_self, State.throw, State.refuse, State.overtake, State.abort]

/-- Who deals with a shutdown afterwards did so before, or has just taken it from the queue. -/
theorem dispatch_after {fatal : Bool} {s : State} {label : Label} {p : Party}
    (possible : enabled s label) (mover : label.party = some p)
    (after : ((effect fatal s label).threads p).phase.dispatch ≠ none) :
    (s.threads p).phase.dispatch ≠ none ∨
      ∃ m ∈ (effect fatal s label).taken, m.header = shutdown := by
  cases label <;> simp only [Label.party, Option.some.injEq, reduceCtorEq] at mover <;>
    subst mover <;> simp only [enabled] at possible <;> simp only [effect] at after ⊢ <;>
    grind -linarith [State.put, State.put_self, State.throw, State.refuse, State.overtake,
      State.abort]

/-- The status is written, and messages are sent, by a thread with locks. -/
theorem Graceful.party {s : State} (known : Graceful s) {label : Label} (graceful : label.Graceful)
    (possible : enabled s label) (loud : label.writes ≠ none ∨ label.sends ≠ []) :
    ∃ p, label.party = some p ∧ 0 < (s.threads p).held ∧
      ((label.writes = some .writeClosed ∧ (s.threads p).phase = .flushed .call) ∨
        (∃ nested, label.writes = some .closed ∧ (s.threads p).phase = .stopping nested) ∨
        ∃ purpose m, label.writes = none ∧ label.sends = [m] ∧
          ((s.threads p).phase = .writing purpose m ∨
            (s.threads p).phase = .rewriting purpose m)) := by
  have locks := fun p => (known.locked.sound p)
  cases label <;> simp only [enabled] at possible <;>
    simp only [Label.writes, Label.sends, ne_eq, not_true_eq_false, or_self, reduceCtorEq,
      not_false_eq_true, or_true, true_or, List.cons_ne_self] at loud <;>
    grind -linarith [Label.party, Label.writes, Label.sends, Label.Graceful, Graceful]

/-- Nothing is sent in a step that writes the status. -/
theorem Label.sends_eq_nil {label : Label} {status : Status}
    (written : label.writes = some status) : label.sends = [] := by
  cases label <;> first | rfl | contradiction

/-- Only `start` writes `OPEN`. -/
theorem Label.eq_startWrite {label : Label} (written : label.writes = some .opened) :
    ∃ p, label = .startWrite p := by
  cases label with
  | startWrite p => exact ⟨p, rfl⟩
  | _ => simp [Label.writes] at written

/-- Who writes for a destructor afterwards has found the status `OPEN`. -/
theorem rewriting_after {fatal : Bool} {s : State} {label : Label} {p : Party} {purpose : Purpose}
    {m : MessageIn} (possible : enabled s label)
    (own : ∀ purpose m, (s.threads p).phase = .rewriting purpose m → purpose = .own)
    (mover : label.party = some p)
    (after : ((effect fatal s label).threads p).phase = .rewriting purpose m) :
    purpose = .own ∨ (s.threads p).phase = .unwinding purpose ∧ s.status = .opened := by
  cases label <;> simp only [Label.party, Option.some.injEq, reduceCtorEq] at mover <;>
    subst mover <;> simp only [enabled] at possible <;> simp only [effect] at after <;>
    grind -linarith [State.put_self, State.throw, State.refuse, State.overtake, State.abort]

/-- After an announcement without a status of its own the thread goes on to close the transport. -/
theorem leaving_after {fatal : Bool} {s : State} {label : Label} {p : Party}
    (possible : enabled s label) (mover : label.party = some p)
    (place : (∃ purpose, (s.threads p).phase = .flushed purpose) ∨
      ∃ nested, (s.threads p).phase = .stopping nested)
    (opened : label.writes.getD s.status = .opened) :
    ∃ nested, ((effect fatal s label).threads p).phase = .stopping nested := by
  cases label with
  | answered q nested =>
    simp only [Label.party, Option.some.injEq] at mover
    subst mover
    exact ⟨nested, by simp [effect]⟩
  | _ =>
    simp only [Label.party, Option.some.injEq, reduceCtorEq] at mover
    all_goals
      subst mover
      simp only [enabled] at possible
      grind -linarith [Label.writes]

/-- A shutdown message that has been written by `flush` is flushed. -/
theorem wrote_after {fatal : Bool} {s : State} {label : Label} {p : Party} {purpose : Purpose}
    {m : MessageIn} (possible : enabled s label) (mover : label.party = some p)
    (other : purpose ≠ .own) (writing : (s.threads p).phase = .writing purpose m)
    (sent : label.sends ≠ []) : ((effect fatal s label).threads p).phase = .flushed purpose := by
  cases label with
  | wrote q purpose' m' =>
    simp only [Label.party, Option.some.injEq] at mover
    subst mover
    simp only [enabled, writing, Phase.writing.injEq] at possible
    obtain ⟨rfl, rfl⟩ := possible
    simp [effect, other]
  | rewrote q purpose' m' =>
    simp only [Label.party, Option.some.injEq] at mover
    subst mover
    simp [enabled, writing] at possible
  | _ => simp [Label.sends] at sent

/-- Announcing is final. -/
theorem State.Announced.mono {s : State} (announced : s.Announced) (fatal : Bool) (label : Label) :
    (effect fatal s label).Announced := by
  obtain ⟨m, sent, kind⟩ := announced
  exact ⟨m, by simp [effect_flushed, sent], kind⟩

/-- A step that sends nothing announces nothing. -/
theorem State.announced_of_silent {fatal : Bool} {s : State} {label : Label}
    (silent : label.sends = []) (announced : (effect fatal s label).Announced) : s.Announced := by
  obtain ⟨m, sent, kind⟩ := announced
  rw [effect_flushed, silent, List.append_nil] at sent
  exact ⟨m, sent, kind⟩

namespace Graceful

variable {s : State}

/-- Who writes has a lock. -/
theorem held_of_writing (known : Graceful s) {p : Party} {purpose : Purpose} {m : MessageIn}
    (writing : (s.threads p).phase = .writing purpose m ∨
      (s.threads p).phase = .rewriting purpose m) : 0 < (s.threads p).held := by
  have locks := known.locked.sound p
  grind -linarith

/-- While a thread with locks is elsewhere, an open end has not announced anything. -/
theorem not_announced (known : Graceful s) {p : Party} (has : 0 < (s.threads p).held)
    (flushed : ∀ purpose, (s.threads p).phase ≠ .flushed purpose)
    (stopping : ∀ nested, (s.threads p).phase ≠ .stopping nested) (opened : s.status = .opened) :
    ¬s.Announced := by
  intro announced
  obtain ⟨q, place⟩ := known.pending announced opened
  have locks := known.locked.sound q
  have other : 0 < (s.threads q).held := by grind -linarith
  obtain rfl := known.locked.exclusive has other
  obtain ⟨purpose, place⟩ | ⟨nested, place⟩ := place
  · exact flushed purpose place
  · exact stopping nested place

/-- While another thread has a lock, a step neither writes the status nor sends. -/
theorem quiet (known : Graceful s) {label : Label} (graceful : label.Graceful)
    (possible : enabled s label) {q : Party} (has : 0 < (s.threads q).held)
    (other : label.party ≠ some q) : label.writes = none ∧ label.sends = [] := by
  by_contra loud
  obtain ⟨p, mover, also, _⟩ := known.party graceful possible (by grind -linarith)
  obtain rfl := known.locked.exclusive has also
  exact other mover

/-- A graceful step keeps what is known of an end. -/
theorem step (known : Graceful s) {label : Label} (graceful : label.Graceful)
    (possible : enabled s label) : Graceful (effect false s label) := by
  have loud := known.party graceful possible
  have elsewhere := fun q (other : label.party ≠ some q) => effect_of_ne false s label other
  have status := effect_status false s label
  constructor
  · exact known.locked.step possible
  · refine ⟨?_, fun p => ?_⟩
    · rw [status]
      have before := known.started.1
      cases label <;> simp [Label.writes, before]
    · by_cases mover : label.party = some p
      · constructor
        · intro starting
          obtain rfl := starting_after possible mover starting
          exact known.started.1 possible.2
        · intro spawning
          obtain rfl | before := spawning_after possible mover spawning
          · exact (known.started.2 p).1 possible
          · exact (known.started.2 p).2 before
      · rw [elsewhere p mover]
        exact known.started.2 p
  · have before := known.reading
    cases label <;> simp only [enabled] at possible <;> simp only [effect] <;>
      grind -linarith [State.put, State.throw, State.refuse, State.abort, State.overtake,
        Label.Graceful]
  · intro p purpose m writing
    by_cases mover : label.party = some p
    · obtain ⟨unwritten, silent, opened, place⟩ := writing_after possible graceful
        (fun purpose m => (known.unwinding p purpose).2 m) mover writing
      have locks := known.locked.sound p
      have here : ¬s.Announced := by
        refine known.not_announced (p := p) ?_ ?_ ?_ opened
        · grind -linarith
        · grind -linarith
        · grind -linarith
      refine ⟨by rw [status, unwritten]; exact opened,
        fun announced => here (State.announced_of_silent silent announced), ?_⟩
      obtain ⟨place, rfl⟩ | ⟨_, _, own, kind⟩ := place
      · have other : purpose ≠ .own := by grind -linarith
        simp [other, shutdownMessage]
      · simp [own, kind]
    · rw [elsewhere p mover] at writing
      obtain ⟨opened, here, kind⟩ := known.writing p purpose m writing
      obtain ⟨unwritten, silent⟩ :=
        known.quiet graceful possible (known.held_of_writing writing) mover
      exact ⟨by rw [status, unwritten]; exact opened,
        fun announced => here (State.announced_of_silent silent announced), kind⟩
  · intro p purpose
    by_cases mover : label.party = some p
    · constructor
      · intro unwinding
        obtain ⟨unwritten, closed⟩ := unwinding_after possible graceful mover unwinding
        rw [status, unwritten]
        exact closed
      · intro m rewriting
        obtain own | ⟨unwinding, opened⟩ := rewriting_after possible
          (fun purpose m => (known.unwinding p purpose).2 m) mover rewriting
        · exact own
        · exact absurd opened ((known.unwinding p purpose).1 unwinding)
    · rw [elsewhere p mover]
      refine ⟨fun unwinding => ?_, (known.unwinding p purpose).2⟩
      have closed := (known.unwinding p purpose).1 unwinding
      have locks := known.locked.sound p
      obtain ⟨unwritten, _⟩ := known.quiet graceful possible (q := p) (by grind -linarith) mover
      rw [status, unwritten]
      exact closed
  · intro p purpose flushed
    by_cases mover : label.party = some p
    · obtain ⟨unwritten, other, m, sent, writing⟩ := flushed_after possible mover flushed
      obtain ⟨opened, _, kind⟩ := known.writing p purpose m (.inl writing)
      refine ⟨by rw [status, unwritten]; exact opened, m, ?_, by grind -linarith⟩
      rw [effect_flushed]
      exact List.mem_append_right _ sent
    · rw [elsewhere p mover] at flushed
      obtain ⟨opened, announced⟩ := known.flushed p purpose flushed
      have locks := known.locked.sound p
      obtain ⟨unwritten, _⟩ := known.quiet graceful possible (q := p) (by grind -linarith) mover
      exact ⟨by rw [status, unwritten]; exact opened, announced.mono false label⟩
  · intro p nested stopping
    by_cases mover : label.party = some p
    · obtain flushed | closed := stopping_after possible mover stopping
      · exact (known.flushed p _ flushed).2.mono false label
      · exact (known.left closed).mono false label
    · rw [elsewhere p mover] at stopping
      exact (known.stopping p nested stopping).mono false label
  · intro closed
    by_cases before : s.status = .opened
    · have written : label.writes ≠ none := by
        intro unwritten
        rw [status, unwritten] at closed
        exact closed before
      obtain ⟨p, _, _, ⟨_, flushed⟩ | ⟨nested, _, stopping⟩ | ⟨_, _, unwritten, _⟩⟩ :=
        loud (.inl written)
      · exact (known.flushed p _ flushed).2.mono false label
      · exact (known.stopping p nested stopping).mono false label
      · exact absurd unwritten written
    · exact (known.left before).mono false label
  · intro announced opened
    have before : s.status = .opened := by
      by_contra closed
      rw [status] at opened
      cases written : label.writes with
      | none =>
        rw [written] at opened
        exact closed opened
      | some now =>
        rw [written] at opened
        subst opened
        obtain ⟨p, rfl⟩ := Label.eq_startWrite written
        exact (known.started.2 p).1 possible
    by_cases silent : label.sends = []
    · obtain ⟨p, place⟩ := known.pending (State.announced_of_silent silent announced) before
      by_cases mover : label.party = some p
      · refine ⟨p, ?_⟩
        rw [status] at opened
        obtain ⟨nested, stopping⟩ := leaving_after possible mover place opened
        exact .inr ⟨nested, stopping⟩
      · exact ⟨p, by rw [elsewhere p mover]; exact place⟩
    · obtain ⟨p, mover, _, ⟨written, _⟩ | ⟨_, written, _⟩ | ⟨purpose, m, _, sent, writing⟩⟩ :=
        loud (.inr silent)
      · exact absurd (Label.sends_eq_nil written) silent
      · exact absurd (Label.sends_eq_nil written) silent
      · obtain ⟨_, here, kind⟩ := known.writing p purpose m writing
        have own : purpose ≠ .own := by
          intro own
          obtain ⟨x, member, shut⟩ := announced
          rw [effect_flushed, sent, List.mem_append, List.mem_singleton] at member
          obtain old | rfl := member
          · exact here ⟨x, old, shut⟩
          · exact kind.mp own shut
        obtain writing | rewriting := writing
        · exact ⟨p, .inl ⟨purpose, wrote_after possible mover own writing silent⟩⟩
        · exact absurd ((known.unwinding p purpose).2 m rewriting) own
  · intro m earlier
    rw [effect_flushed] at earlier
    by_cases silent : label.sends = []
    · rw [silent, List.append_nil] at earlier
      exact known.last m earlier
    · obtain ⟨p, _, _, ⟨written, _⟩ | ⟨_, written, _⟩ | ⟨purpose, m', _, sent, writing⟩⟩ :=
        loud (.inr silent)
      · exact absurd (Label.sends_eq_nil written) silent
      · exact absurd (Label.sends_eq_nil written) silent
      · rw [sent, List.dropLast_concat] at earlier
        intro kind
        exact (known.writing p purpose m' writing).2.1 ⟨m, earlier, kind⟩
  · intro dealt
    have before : (∃ m ∈ (effect false s label).taken, m.header = shutdown) ∨
        (∃ p, (s.threads p).phase.dispatch ≠ none) ∨ s.status = .closed := by
      obtain ⟨p, dispatching⟩ | closed := dealt
      · by_cases mover : label.party = some p
        · exact (dispatch_after possible mover dispatching).symm.imp id
            fun before => .inl ⟨p, before⟩
        · rw [elsewhere p mover] at dispatching
          exact .inr (.inl ⟨p, dispatching⟩)
      · by_cases unwritten : label.writes = none
        · rw [status, unwritten] at closed
          exact .inr (.inr closed)
        · obtain ⟨p, _, _, ⟨written, _⟩ | ⟨nested, _, stopping⟩ | ⟨_, _, none, _⟩⟩ :=
            loud (.inl unwritten)
          · simp [status, written] at closed
          · exact .inr (.inl ⟨p, by simp [stopping, Phase.dispatch]⟩)
          · exact absurd none unwritten
    obtain found | before := before
    · exact found
    · obtain ⟨m, taken, kind⟩ := known.popped before
      exact ⟨m, (taken_grows false s label).subset taken, kind⟩

end Graceful

/-- A transport that has just been started. -/
def running : State := { status := .opened, producer := .testing }

/-- Nothing has been sent or received at first. -/
theorem graceful_running : Graceful running := by
  have code : ∀ p, (running.threads p).phase = .code ∨ (running.threads p).phase = .idle := by
    intro p
    cases p <;> simp [running]
  have locks : ∀ p, (running.threads p).held = 0 ∧ (running.threads p).unsent = 0 := by
    intro p
    simp [running]
  refine ⟨⟨?_, ?_⟩, ?_, ?_, ?_, ?_, ?_, ?_, ?_, ?_, ?_, ?_⟩
  · intro p
    simp [running]
  · exact (Locked.init : Locked (lifecycle false).init).sound
  · exact ⟨by simp [running], fun p => by grind -linarith⟩
  · simp [running]
  · intro p
    grind -linarith
  · intro p
    grind -linarith
  · intro p
    grind -linarith
  · intro p
    grind -linarith
  · simp [running]
  · simp [running, State.Announced]
  · simp [running]
  · rintro (⟨p, dispatching⟩ | closed)
    · grind -linarith
    · simp [running] at closed

/-- The ends of a stream. -/
inductive Side where
  /-- One of them. -/
  | left
  /-- The other one. -/
  | right
deriving DecidableEq, Repr

/-- The end at the other side. -/
def Side.other : Side → Side
  | .left => .right
  | .right => .left

/-- Two transports at the ends of a stream. -/
abbrev Ends : Type := Side → State

/-- What is read is what the other end has flushed next. -/
def Ends.Arrives (e : Ends) (side : Side) : Label → Prop
  | .read m =>
    (e side.other).flushed[(e side).taken.length + (e side).queue.length]? = some m
  | _ => True

/-- What is next is decided from the messages flushed. -/
instance decidableArrives (e : Ends) (side : Side) (label : Label) :
    Decidable (e.Arrives side label) := by
  unfold Ends.Arrives
  split <;> infer_instance

/-- Two transports that have been started, where refusing to flush counts as returning an error. -/
def ends : System Ends (Side × Label) where
  init := fun _ => running
  step e move :=
    if e.Arrives move.1 move.2 then
      ((lifecycle false).step (e move.1) move.2).map (Function.update e move.1)
    else none

/-- Both ends are in order, and each has received the first messages the other one has flushed. -/
structure Joined (e : Ends) : Prop where
  /-- Each end. -/
  graceful : ∀ side, Graceful (e side)
  /-- What has been received. -/
  order : ∀ side, (e side).taken ++ (e side).queue <+: (e side.other).flushed

namespace Joined

/-- A graceful step keeps the two ends in order. -/
theorem step {e e' : Ends} (joined : Joined e) {move : Side × Label} (graceful : move.2.Graceful)
    (taken : ends.step e move = some e') : Joined e' := by
  obtain ⟨side, label⟩ := move
  obtain ⟨arrives, moved⟩ := Option.ite_none_right_eq_some.mp taken
  obtain ⟨s', stepped, rfl⟩ := Option.map_eq_some_iff.mp moved
  obtain ⟨_, possible, rfl⟩ := of_step stepped
  dsimp only at *
  have here : ∀ side : Side, side.other ≠ side := by
    intro side
    cases side <;> decide
  constructor
  · intro q
    by_cases same : q = side
    · subst same
      rw [Function.update_self]
      exact (joined.graceful q).step graceful possible
    · rw [Function.update_of_ne same]
      exact joined.graceful q
  · intro q
    have before := joined.order q
    by_cases same : q = side
    · subst same
      rw [Function.update_self, Function.update_of_ne (here q), effect_received false possible]
      cases label with
      | read m =>
        obtain ⟨inside, next⟩ := List.getElem?_eq_some_iff.mp arrives
        rw [← List.length_append] at inside
        have first := List.prefix_iff_eq_take.mp before
        have more : (e q).taken ++ (e q).queue ++ [m] =
            (e q.other).flushed.take (((e q).taken ++ (e q).queue).length + 1) := by
          rw [List.take_succ_eq_append_getElem inside, ← first]
          simp [← next]
        rw [Label.receives, more]
        exact List.take_prefix _ _
      | _ => simpa [Label.receives] using before
    · have turned : q.other = side := by
        cases q <;> cases side <;> simp_all [Side.other]
      rw [Function.update_of_ne same, turned, Function.update_self, effect_flushed]
      rw [turned] at before
      exact before.trans (List.prefix_append _ _)

/-- Two started transports are in order. -/
theorem init : Joined ends.init := ⟨fun _ => graceful_running, fun _ => List.nil_prefix⟩

end Joined

/-- In every run of two connected transports without `close` and without errors of the stream: each
end sends at most one shutdown message and nothing after it; and when an end is closed it has sent
its own, and has taken from its queue everything the other end has flushed, the last of which is the
shutdown message of that end. -/
theorem graceful_shutdown {e : Ends}
    (reachable : ends.Reachable (fun _ move => move.2.Graceful) e) (side : Side) :
    (∀ m ∈ (e side).flushed.dropLast, m.header ≠ shutdown) ∧
      ((e side).status = .closed →
        (∃ m ∈ (e side).flushed, m.header = shutdown) ∧
        ∃ before m, (e side.other).flushed = before ++ [m] ∧ m.header = shutdown ∧
          (e side).taken = before ++ [m]) := by
  have joined : Joined e := by
    refine reachable.invariant Joined Joined.init ?_
    exact fun e move e' joined graceful taken => joined.step graceful taken
  have here := joined.graceful side
  refine ⟨here.last, fun closed => ⟨here.left (by simp [closed]), ?_⟩⟩
  obtain ⟨m, taken, kind⟩ := here.popped (.inr closed)
  obtain ⟨rest, whole⟩ := (List.prefix_append _ _).trans (joined.order side)
  have all : rest = [] := by
    by_contra more
    refine (joined.graceful side.other).last m ?_ kind
    rw [← whole, List.dropLast_append_of_ne_nil more]
    exact List.mem_append_left _ taken
  rw [all, List.append_nil] at whole
  rw [← whole]
  have some : (e side).taken ≠ [] := List.ne_nil_of_mem taken
  refine ⟨(e side).taken.dropLast, (e side).taken.getLast some,
    (List.dropLast_append_getLast some).symm, ?_, (List.dropLast_append_getLast some).symm⟩
  rw [← List.dropLast_append_getLast some, List.mem_append, List.mem_singleton] at taken
  obtain earlier | rfl := taken
  · refine absurd kind ((joined.graceful side.other).last m ?_)
    rwa [← whole]
  · exact kind

/-- The application of an end announces the end. -/
def announce : List Label :=
  [.shutdownCheck (.user 0), .checkCreated (.user 0) .call, .checkOpen (.user 0) .call,
    .enter (.user 0) .call, .flush (.user 0) .call, .wrote (.user 0) .call shutdownMessage,
    .writeClose (.user 0), .leave (.user 0)]

/-- The consumer of an end takes a shutdown from its queue. -/
def takeShutdown : List Label :=
  [.begin, .poll, .read shutdownMessage, .test, .lock, .count false, .take shutdownMessage false,
    .dispatch .consumer false]

/-- It answers. -/
def answerShutdown : List Label :=
  [.checkCreated .consumer (.answer false), .checkOpen .consumer (.answer false),
    .enter .consumer (.answer false), .flush .consumer (.answer false),
    .wrote .consumer (.answer false) shutdownMessage, .answered .consumer false]

/-- The left end shuts down, the right end answers, and both are closed. -/
def shutdownAndAnswer : List (Side × Label) :=
  announce.map (Side.left, ·) ++
    (takeShutdown ++ answerShutdown ++ [Label.stop .consumer false]).map (Side.right, ·) ++
    (takeShutdown ++ [Label.stop .consumer false]).map (Side.left, ·)

/-- Both ends have sent their shutdown message and taken the other one. -/
theorem graceful_shutdown_answered :
    ∃ e, ends.run ends.init shutdownAndAnswer = some e ∧ (e .left).status = .closed ∧
      ∃ before m, (e .right).flushed = before ++ [m] ∧ m.header = shutdown ∧
        (e .left).taken = before ++ [m] := by
  have ran : (ends.run ends.init shutdownAndAnswer).map (fun e => (e .left).status) =
      some .closed := by
    decide
  obtain ⟨e, ran, closed⟩ := Option.map_eq_some_iff.mp ran
  have graceful : ∀ move ∈ shutdownAndAnswer, move.2.Graceful := by
    decide
  exact ⟨e, ran, closed, ((graceful_shutdown (.run .init
    (ends.along_of_forall (fun _ => graceful) _) ran) .left).2 closed).2⟩

end XrTransport.Transport.Lifecycle
