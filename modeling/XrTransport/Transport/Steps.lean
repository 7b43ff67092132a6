import XrTransport.Transport.Machine

/-!
# What a step can do

`Step` lists the cases of `perform` with everything that is known in each, so that a property of
all steps is proved case by case. The first one is mutual exclusion: whoever has locks on the
message mutex owns it.
-/
namespace XrTransport.Transport

namespace State

variable (s : State) (p : Party)

/-- Going on to something else changes the phase of that thread. -/
theorem setPhase_self (phase : Phase) :
    (s.setPhase p phase).threads p = { s.threads p with phase } := by
  simp [setPhase]

/-- Going on to something else changes no other thread. -/
theorem setPhase_of_ne (phase : Phase) {q : Party} (other : q ≠ p) :
    (s.setPhase p phase).threads q = s.threads q := by
  simp [setPhase, other]

/-- Changing locks changes those of that thread. -/
theorem setHeld_self (held : List Hold) :
    (s.setHeld p held).threads p = { s.threads p with held } := by
  simp [setHeld]

/-- Changing locks changes no other thread. -/
theorem setHeld_of_ne (held : List Hold) {q : Party} (other : q ≠ p) :
    (s.setHeld p held).threads q = s.threads q := by
  simp [setHeld, other]

end State

/-- The cases of a step. -/
inductive Step (s : State) : Action → State → Prop where
  /-- `start`. -/
  | start (created : s.status = .created) :
      Step s .start { s with status := .opened, inbox := { s.inbox with producer := .checking } }
  /-- A call passes its checks. -/
  | call {p : Party} {request : Request} (runs : (s.threads p).runsCode p = true)
      (passes : request.passes s.status = true) :
      Step s (.call p request) (s.setPhase p (.called request))
  /-- The caller is counted. -/
  | announce {p : Party} {request : Request} (called : (s.threads p).phase = .called request) :
      Step s (.announce p)
        { s.setPhase p (.waiting request) with numWaiting := s.numWaiting + 1 }
  /-- The caller gets the mutex. -/
  | acquire {p : Party} {request : Request} (waiting : (s.threads p).phase = .waiting request)
      (free : s.owner = none ∨ s.owner = some p) :
      Step s (.acquire p)
        (State.grant { s.setPhase p .running with numWaiting := s.numWaiting - 1 } p request)
  /-- Bytes are written to a message. -/
  | append {p : Party} {index : Nat} {m : MessageOut} (bytes : List UInt8)
      (runs : (s.threads p).runsCode p = true)
      (own : (s.threads p).outgoing index = some m) :
      Step s (.append p index bytes)
        (s.setHeld p
          ((s.threads p).held.set index (.out { m with buffer := m.buffer ++ bytes })))
  /-- `flush` of a message that has been flushed. -/
  | flushNothing {p : Party} {index : Nat} {m : MessageOut}
      (own : (s.threads p).outgoing index = some m) (empty : m.buffer = []) :
      Step s (.flush p index) s
  /-- `flush` starts to write. -/
  | flush {p : Party} {index : Nat} {m : MessageOut}
      (code : (s.threads p).runsCode p = true ∨ (s.threads p).answers .sending = true)
      (own : (s.threads p).outgoing index = some m) (unsent : m.buffer ≠ [])
      (opened : s.status = .opened) :
      Step s (.flush p index) (s.setPhase p (.writing index m.framed false))
  /-- `flush` throws. -/
  | flushRefused {p : Party} {index : Nat} {m : MessageOut}
      (running : (s.threads p).phase = .running)
      (own : (s.threads p).outgoing index = some m) (unsent : m.buffer ≠ [])
      (refused : s.status ≠ .opened) :
      Step s (.flush p index) (s.setHeld p (unwind (s.threads p).held))
  /-- The destructor of a message that has been flushed. -/
  | destroy {p : Party} {index : Nat} {m : MessageOut} (running : (s.threads p).phase = .running)
      (own : (s.threads p).outgoing index = some m) (empty : m.buffer = []) :
      Step s (.destroy p index) (s.setHeld p ((s.threads p).held.eraseIdx index))
  /-- The destructor starts to write. -/
  | destroyUnsent {p : Party} {index : Nat} {m : MessageOut}
      (code : (s.threads p).runsCode p = true ∨ (s.threads p).answers .unwinding = true)
      (own : (s.threads p).outgoing index = some m) (unsent : m.buffer ≠ [])
      (opened : s.status = .opened) :
      Step s (.destroy p index) (s.setPhase p (.writing index m.framed true))
  /-- The destructor throws. -/
  | destroyRefused {p : Party} {index : Nat} {m : MessageOut}
      (running : (s.threads p).phase = .running)
      (own : (s.threads p).outgoing index = some m) (unsent : m.buffer ≠ [])
      (refused : s.status ≠ .opened) :
      Step s (.destroy p index) { s with escaped := true }
  /-- The stream takes some bytes. -/
  | write {p : Party} {index count : Nat} {rest : List UInt8} {implicit : Bool}
      (writing : (s.threads p).phase = .writing index rest implicit) (some : 0 < count)
      (enough : count ≤ rest.length) (working : s.link.broken = false) :
      Step s (.write p count) (s.write p index rest implicit count)
  /-- `flush` is done. -/
  | wrote {p : Party} {index : Nat} {m : MessageOut}
      (writing : (s.threads p).phase = .writing index [] false)
      (own : (s.threads p).outgoing index = some m) :
      Step s (.wrote p)
        ((s.setPhase p .running).setHeld p
          ((s.threads p).held.set index (.out { m with buffer := [] })))
  /-- The destructor is done. -/
  | wroteImplicitly {p : Party} {index : Nat}
      (writing : (s.threads p).phase = .writing index [] true) :
      Step s (.wrote p)
        ((s.setPhase p .running).setHeld p ((s.threads p).held.eraseIdx index))
  /-- The stream fails under `flush`. -/
  | writeFailed {p : Party} {index : Nat} {rest : List UInt8}
      (writing : (s.threads p).phase = .writing index rest false) (left : rest ≠ []) :
      Step s (.writeFailed p)
        { (s.setPhase p .running).setHeld p (unwind (s.threads p).held) with
          link := { s.link with broken := true } }
  /-- The stream fails under a destructor. -/
  | writeFailedImplicitly {p : Party} {index : Nat} {rest : List UInt8}
      (writing : (s.threads p).phase = .writing index rest true) (left : rest ≠ []) :
      Step s (.writeFailed p)
        { s.setPhase p .running with link := { s.link with broken := true }, escaped := true }
  /-- An incoming message or a plain lock is released. -/
  | release {p : Party} {index : Nat} {hold : Hold} (runs : (s.threads p).runsCode p = true)
      (own : (s.threads p).locals[index]? = some hold)
      (kind : hold = .lock ∨ ∃ m, hold = .received m) :
      Step s (.release p index) (s.setHeld p ((s.threads p).held.eraseIdx index))
  /-- A message is taken and dealt with. -/
  | take {p : Party} {m : MessageIn} {queue : List MessageIn} {result : State × Fate}
      (first : s.inbox.queue = m :: queue) (running : (s.threads p).phase = .running)
      (alive : s.status ≠ .closed)
      (delivered : s.deliver p m (s.threads p).held = some result) :
      Step s (.take p)
        { result.1 with
          inbox := { s.inbox with queue }
          taken := s.taken ++ [⟨m, p, result.2, s.handlers⟩] }
  /-- A loop is left because the transport is closed. -/
  | interrupt {p : Party} {hold : Hold} {rest : List Hold}
      (running : (s.threads p).phase = .running) (closed : s.status = .closed)
      (held : (s.threads p).held = hold :: rest)
      (kind : (∃ header, hold = .await header) ∨ ∃ header, hold = .handle header false) :
      Step s (.interrupt p) (s.setHeld p rest)
  /-- A function returns. -/
  | finish {p : Party} {hold : Hold} {rest : List Hold}
      (running : (s.threads p).phase = .running) (held : (s.threads p).held = hold :: rest)
      (kind : (∃ m, hold = .handler m) ∨ (∃ header, hold = .handle header true) ∨
        hold = .shutdown .unwinding ∨ hold = .consumer .dispatched) :
      Step s (.finish p) (s.setHeld p rest)
  /-- A shutdown is dispatched. -/
  | proceed {p : Party} {s' : State} (running : (s.threads p).phase = .running)
      (goes : s.proceed p (s.threads p).held = some s') : Step s (.proceed p) s'
  /-- `shutdown` has flushed its message. -/
  | writeClose {p : Party} {index : Nat} : Step s (.writeClose p index)
      { s with status := .writeClosed }
  /-- `close`. -/
  | close : Step s .close { s with status := .closed }
  /-- The consumer takes the lock. -/
  | lock (free : s.owner = none) (running : (s.threads .consumer).phase = .running)
      (started : s.status ≠ .created) :
      Step s .lock (s.setHeld .consumer [.consumer .locked])
  /-- The consumer gives way. -/
  | yield (running : (s.threads .consumer).phase = .running)
      (held : (s.threads .consumer).held = [.consumer .locked]) (waiting : 0 < s.numWaiting) :
      Step s .check (s.setHeld .consumer [])
  /-- The consumer goes on. -/
  | check (running : (s.threads .consumer).phase = .running)
      (held : (s.threads .consumer).held = [.consumer .locked]) (alone : s.numWaiting = 0) :
      Step s .check (s.setHeld .consumer [.consumer .checked])
  /-- The consumer has nothing to do. -/
  | rest (running : (s.threads .consumer).phase = .running)
      (held : (s.threads .consumer).held = [.consumer .checked]) :
      Step s .rest (s.setHeld .consumer [])
  /-- Bytes arrive. -/
  | arrive (bytes : List UInt8) : Step s (.arrive bytes)
      { s with
        inbox := { s.inbox with
          arrived := s.inbox.arrived ++ bytes
          incoming := s.inbox.incoming ++ bytes } }
  /-- The producer looks at the status. -/
  | poll (checking : s.inbox.producer = .checking) : Step s .poll
      { s with
        inbox := { s.inbox with
          producer := if s.status = .closed then .finished else .readingHeader [] } }
  /-- The producer reads. -/
  | receive {count : Nat} {inbox : Inbox} (read : s.inbox.receive count = some inbox) :
      Step s (.receive count) { s with inbox }
  /-- A message goes into the queue. -/
  | enqueue {inbox : Inbox} (complete : s.inbox.enqueue = some inbox) :
      Step s .enqueue { s with inbox }
  /-- Reading fails. -/
  | receiveFailed : Step s .receiveFailed
      { s with status := .closed, inbox := { s.inbox with producer := .finished } }

/-- `runsCode` is only true of a thread that does nothing else. -/
theorem Thread.runsCode_running {t : Thread} {p : Party} (runs : t.runsCode p = true) :
    t.phase = .running := by
  simp only [Thread.runsCode, Bool.and_eq_true, decide_eq_true_eq] at runs
  exact runs.1

/-- The same of a thread that answers a shutdown. -/
theorem Thread.answers_running {t : Thread} {stage : Stage} (answers : t.answers stage = true) :
    t.phase = .running := by
  simp only [Thread.answers, Bool.and_eq_true, decide_eq_true_eq] at answers
  exact answers.1

/-- The same of a thread that does one or the other. -/
theorem Thread.code_running {t : Thread} {p : Party} {stage : Stage}
    (code : t.runsCode p = true ∨ t.answers stage = true) : t.phase = .running :=
  code.elim runsCode_running answers_running

/-- Every step is one of the cases. -/
theorem step_of_perform {s s' : State} {action : Action} (performed : perform s action = some s') :
    Step s action s' := by
  cases action with
  | start =>
    simp only [perform, Option.ite_none_right_eq_some, Option.some.injEq] at performed
    obtain ⟨created, rfl⟩ := performed
    exact .start created
  | call p request =>
    simp only [perform, Option.ite_none_right_eq_some, Option.some.injEq, Bool.and_eq_true]
      at performed
    obtain ⟨⟨runs, passes⟩, rfl⟩ := performed
    exact .call runs passes
  | announce p =>
    cases phase : (s.threads p).phase with
    | called request =>
      simp only [perform, phase, Option.some.injEq] at performed
      obtain rfl := performed
      exact .announce phase
    | _ => simp [perform, phase] at performed
  | acquire p =>
    cases phase : (s.threads p).phase with
    | waiting request =>
      simp only [perform, phase, Option.ite_none_right_eq_some, Option.some.injEq] at performed
      obtain ⟨free, rfl⟩ := performed
      refine .acquire phase ?_
      cases owner : s.owner with
      | none => exact .inl rfl
      | some q =>
        simp only [owner, Option.all_some, decide_eq_true_eq] at free
        exact .inr (congrArg some free)
    | _ => simp [perform, phase] at performed
  | append p index bytes =>
    cases own : (s.threads p).outgoing index with
    | none => simp [perform, own] at performed
    | some m =>
      simp only [perform, own, Option.ite_none_right_eq_some, Option.some.injEq] at performed
      obtain ⟨runs, rfl⟩ := performed
      exact .append bytes runs own
  | flush p index =>
    cases own : (s.threads p).outgoing index with
    | none => simp [perform, own] at performed
    | some m =>
      simp only [perform, own, Option.ite_none_right_eq_some, Bool.or_eq_true] at performed
      obtain ⟨code, performed⟩ := performed
      by_cases empty : m.buffer = []
      · simp only [empty, if_true, Option.some.injEq] at performed
        obtain rfl := performed
        exact .flushNothing own empty
      · by_cases opened : s.status = .opened
        · simp only [empty, opened, if_true, if_false, Option.some.injEq] at performed
          obtain rfl := performed
          exact .flush code own empty opened
        · simp only [empty, opened, if_false, Option.some.injEq] at performed
          obtain rfl := performed
          exact .flushRefused (Thread.code_running code) own empty opened
  | destroy p index =>
    cases own : (s.threads p).outgoing index with
    | none => simp [perform, own] at performed
    | some m =>
      simp only [perform, own, Option.ite_none_right_eq_some, Bool.or_eq_true, Bool.and_eq_true,
        decide_eq_true_eq] at performed
      obtain ⟨code, performed⟩ := performed
      by_cases empty : m.buffer = []
      · simp only [empty, if_true, Option.some.injEq] at performed
        obtain rfl := performed
        refine .destroy ?_ own empty
        obtain (runs | answers) | ⟨answers, _⟩ := code
        · exact Thread.runsCode_running runs
        · exact Thread.answers_running answers
        · exact Thread.answers_running answers
      · simp only [empty, and_false, or_false] at code
        by_cases opened : s.status = .opened
        · simp only [empty, opened, if_true, if_false, Option.some.injEq] at performed
          obtain rfl := performed
          exact .destroyUnsent code own empty opened
        · simp only [empty, opened, if_false, Option.some.injEq] at performed
          obtain rfl := performed
          exact .destroyRefused (Thread.code_running code) own empty opened
  | write p count =>
    cases phase : (s.threads p).phase with
    | writing index rest implicit =>
      simp only [perform, phase, Option.ite_none_right_eq_some, Option.some.injEq] at performed
      obtain ⟨⟨some, enough, working⟩, rfl⟩ := performed
      exact .write phase some enough working
    | _ => simp [perform, phase] at performed
  | wrote p =>
    cases phase : (s.threads p).phase with
    | writing index rest implicit =>
      cases rest with
      | cons byte rest => simp [perform, phase] at performed
      | nil =>
        cases implicit with
        | true =>
          simp only [perform, phase, Option.some.injEq] at performed
          obtain rfl := performed
          exact .wroteImplicitly phase
        | false =>
          cases own : (s.threads p).outgoing index with
          | none => simp [perform, phase, own] at performed
          | some m =>
            simp only [perform, phase, own, Option.some.injEq] at performed
            obtain rfl := performed
            exact .wrote phase own
    | _ => simp [perform, phase] at performed
  | writeFailed p =>
    cases phase : (s.threads p).phase with
    | writing index rest implicit =>
      cases rest with
      | nil => simp [perform, phase] at performed
      | cons byte rest =>
        cases implicit with
        | true =>
          simp only [perform, phase, Option.some.injEq] at performed
          obtain rfl := performed
          exact .writeFailedImplicitly phase (by simp)
        | false =>
          simp only [perform, phase, Option.some.injEq] at performed
          obtain rfl := performed
          exact .writeFailed phase (by simp)
    | _ => simp [perform, phase] at performed
  | release p index =>
    cases own : (s.threads p).locals[index]? with
    | none => simp [perform, own] at performed
    | some hold =>
      cases hold with
      | received m =>
        simp only [perform, own, Option.ite_none_right_eq_some, Option.some.injEq] at performed
        obtain ⟨runs, rfl⟩ := performed
        exact .release runs own (.inr ⟨m, rfl⟩)
      | lock =>
        simp only [perform, own, Option.ite_none_right_eq_some, Option.some.injEq] at performed
        obtain ⟨runs, rfl⟩ := performed
        exact .release runs own (.inl rfl)
      | _ => simp [perform, own] at performed
  | take p =>
    cases first : s.inbox.queue with
    | nil => simp [perform, first] at performed
    | cons m queue =>
      simp only [perform, first, Option.ite_none_right_eq_some, Option.map_eq_some_iff]
        at performed
      obtain ⟨⟨running, alive⟩, result, delivered, rfl⟩ := performed
      exact .take first running alive delivered
  | interrupt p =>
    simp only [perform, Option.ite_none_right_eq_some] at performed
    obtain ⟨⟨running, closed⟩, performed⟩ := performed
    split at performed
    · rename_i header rest held
      obtain rfl := Option.some.inj performed
      exact .interrupt running closed held (.inl ⟨header, rfl⟩)
    · rename_i header rest held
      obtain rfl := Option.some.inj performed
      exact .interrupt running closed held (.inr ⟨header, rfl⟩)
    · contradiction
  | finish p =>
    simp only [perform, Option.ite_none_right_eq_some] at performed
    obtain ⟨running, performed⟩ := performed
    split at performed
    · rename_i m rest held
      obtain rfl := Option.some.inj performed
      exact .finish running held (.inl ⟨m, rfl⟩)
    · rename_i header rest held
      obtain rfl := Option.some.inj performed
      exact .finish running held (.inr (.inl ⟨header, rfl⟩))
    · rename_i rest held
      obtain rfl := Option.some.inj performed
      exact .finish running held (.inr (.inr (.inl rfl)))
    · rename_i rest held
      obtain rfl := Option.some.inj performed
      exact .finish running held (.inr (.inr (.inr rfl)))
    · contradiction
  | proceed p =>
    simp only [perform, Option.ite_none_right_eq_some] at performed
    exact .proceed performed.1 performed.2
  | writeClose p index =>
    cases own : (s.threads p).outgoing index with
    | none => simp [perform, own] at performed
    | some m =>
      simp only [perform, own, Option.ite_none_right_eq_some, Option.some.injEq] at performed
      obtain ⟨_, rfl⟩ := performed
      exact .writeClose
  | close =>
    obtain rfl := Option.some.inj performed
    exact .close
  | lock =>
    simp only [perform, Option.ite_none_right_eq_some, Option.some.injEq] at performed
    obtain ⟨⟨started, free, running⟩, rfl⟩ := performed
    exact .lock free running started
  | check =>
    simp only [perform] at performed
    split at performed
    · rename_i consumer
      by_cases waiting : 0 < s.numWaiting
      · simp only [waiting, if_true, Option.some.injEq] at performed
        obtain rfl := performed
        exact .yield (by rw [consumer]) (by rw [consumer]) waiting
      · simp only [waiting, if_false, Option.some.injEq] at performed
        obtain rfl := performed
        exact .check (by rw [consumer]) (by rw [consumer]) (by omega)
    · contradiction
  | rest =>
    simp only [perform] at performed
    split at performed
    · rename_i consumer
      simp only [Option.ite_none_right_eq_some, Option.some.injEq] at performed
      obtain ⟨_, rfl⟩ := performed
      exact .rest (by rw [consumer]) (by rw [consumer])
    · contradiction
  | arrive bytes =>
    obtain rfl := Option.some.inj performed
    exact .arrive bytes
  | poll =>
    simp only [perform, Option.ite_none_right_eq_some, Option.some.injEq] at performed
    obtain ⟨checking, rfl⟩ := performed
    exact .poll checking
  | receive count =>
    simp only [perform, Option.map_eq_some_iff] at performed
    obtain ⟨inbox, read, rfl⟩ := performed
    exact .receive read
  | enqueue =>
    simp only [perform, Option.map_eq_some_iff] at performed
    obtain ⟨inbox, complete, rfl⟩ := performed
    exact .enqueue complete
  | receiveFailed =>
    simp only [perform] at performed
    split at performed
    · obtain rfl := Option.some.inj performed
      exact .receiveFailed
    · obtain rfl := Option.some.inj performed
      exact .receiveFailed
    · contradiction

/-- Every step of the machine is one of the cases. -/
theorem step_of_transport {s s' : State} {action : Action}
    (taken : transport.step s action = some s') : Step s action s' := by
  simp only [transport] at taken
  split at taken
  · contradiction
  · exact step_of_perform taken

end XrTransport.Transport
