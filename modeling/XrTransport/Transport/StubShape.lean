import XrTransport.Transport.StubSteps

/-!
# The phases of a stub

What the thread of a stub has and does in each phase. Its own steps lead from the shape of one phase
to that of the next; the steps of others do not change it.
-/
namespace XrTransport.Transport

/-- The transport has been open and is so no longer. -/
def State.ended (s : State) : Prop := s.status ≠ .created ∧ s.status ≠ .opened

/-- What a stub has while its call is not complete. -/
structure Calling (t : Thread) (m : MessageOut) (base : List Hold) : Prop where
  /-- Its message is the innermost lock. -/
  held : t.held = .out m :: base
  /-- The message is a call. -/
  kind : m.header = functionCall
  /-- The thread's other locks are not of stubs. -/
  plain : ∀ x ∈ base, x.Plain

/-- The locks and the phase of a thread in a stub. -/
def Stub.Shape (s : State) (t : Thread) : Stub → Prop
  | .idle => Above t []
  | .entering => s.status ≠ .created ∧ (∀ x ∈ t.held, x.Plain) ∧
      (t.phase = .called (.startMessage functionCall) ∨
        t.phase = .waiting (.startMessage functionCall))
  | .building => s.status ≠ .created ∧ ∃ m base, Calling t m base ∧ m.buffer ≠ [] ∧
      (t.phase = .running ∨ ∃ rest, t.phase = .writing 0 rest false)
  | .sent _ _ => ∃ m base, Calling t m base ∧
      (t.phase = .writing 0 [] false ∨ t.phase = .running ∧ m.buffer = [])
  | .awaiting _ _ => ∃ m base, m.buffer = [] ∧ (∀ x ∈ base, x.Plain) ∧
      (t.held = .out m :: base ∧
        (t.phase = .called (.awaitMessage functionReturn) ∨
          t.phase = .waiting (.awaitMessage functionReturn)) ∨
        Above t (.await functionReturn :: .out m :: base))
  | .leaving => ∃ m base, m.buffer = [] ∧ (∀ x ∈ base, x.Plain) ∧ t.phase = .running ∧
      (t.held = .out m :: base ∨ ∃ reply, t.held = .received reply :: .out m :: base)
  | .unwinding => ∃ m base, Calling t m base ∧ m.buffer ≠ [] ∧
      (t.phase = .running ∧ (s.ended ∨ s.link.broken = true) ∨
        s.link.broken = true ∧ ∃ rest, rest ≠ [] ∧ t.phase = .writing 0 rest true)

/-- A step changes no thread but its own. -/
theorem Step.threads_of_ne {s s' : State} {action : Action} (step : Step s action s') {q : Party}
    (other : action.party ≠ some q) : s'.threads q = s.threads q := by
  have apart : ∀ {p : Party}, action.party = some p → q ≠ p := by
    rintro p own rfl
    exact other own
  cases step with
  | call _ _ => exact State.setPhase_of_ne _ _ _ (apart rfl)
  | announce _ => exact State.setPhase_of_ne _ _ _ (apart rfl)
  | @acquire p request _ _ =>
    have ready : (s.setPhase p .running).threads q = s.threads q :=
      State.setPhase_of_ne _ _ _ (apart rfl)
    obtain ⟨hold, same, _⟩ | ⟨handlers, same⟩ := State.grant_eq
      { s.setPhase p .running with numWaiting := s.numWaiting - 1 } p request
    · rw [same, State.setHeld_of_ne _ _ _ (apart rfl)]
      exact ready
    · rw [same]
      exact ready
  | append _ _ _ => exact State.setHeld_of_ne _ _ _ (apart rfl)
  | flush _ _ _ _ => exact State.setPhase_of_ne _ _ _ (apart rfl)
  | flushRefused _ _ _ _ => exact State.setHeld_of_ne _ _ _ (apart rfl)
  | destroy _ _ _ => exact State.setHeld_of_ne _ _ _ (apart rfl)
  | destroyUnsent _ _ _ _ => exact State.setPhase_of_ne _ _ _ (apart rfl)
  | @write p index count rest implicit _ _ _ _ =>
    obtain ⟨link, same⟩ := s.write_eq p index rest implicit count
    rw [same]
    exact State.setPhase_of_ne _ _ _ (apart rfl)
  | wrote _ _ =>
    rw [State.setHeld_of_ne _ _ _ (apart rfl), State.setPhase_of_ne _ _ _ (apart rfl)]
  | wroteImplicitly _ =>
    rw [State.setHeld_of_ne _ _ _ (apart rfl), State.setPhase_of_ne _ _ _ (apart rfl)]
  | @writeFailed p _ _ _ _ =>
    have thrown : ((s.setPhase p .running).setHeld p (unwind (s.threads p).held)).threads q =
        s.threads q := by
      rw [State.setHeld_of_ne _ _ _ (apart rfl), State.setPhase_of_ne _ _ _ (apart rfl)]
    exact thrown
  | writeFailedImplicitly _ _ => exact State.setPhase_of_ne _ _ _ (apart rfl)
  | release _ _ _ => exact State.setHeld_of_ne _ _ _ (apart rfl)
  | take _ _ _ delivered =>
    obtain ⟨held', same, _⟩ := State.deliver_eq delivered
    rw [same]
    exact State.setHeld_of_ne _ _ _ (apart rfl)
  | interrupt _ _ _ _ => exact State.setHeld_of_ne _ _ _ (apart rfl)
  | finish _ _ _ => exact State.setHeld_of_ne _ _ _ (apart rfl)
  | proceed _ goes =>
    obtain ⟨held', status, same, _⟩ := State.proceed_eq goes
    rw [same]
    exact State.setHeld_of_ne _ _ _ (apart rfl)
  | lock _ _ _ => exact State.setHeld_of_ne _ _ _ (apart rfl)
  | yield _ _ _ => exact State.setHeld_of_ne _ _ _ (apart rfl)
  | check _ _ _ => exact State.setHeld_of_ne _ _ _ (apart rfl)
  | rest _ _ => exact State.setHeld_of_ne _ _ _ (apart rfl)
  | _ => rfl

/-- The status changes only from created to open, and away from open. -/
theorem Step.status {s s' : State} {action : Action} (step : Step s action s') :
    s'.status = s.status ∨ s.status = .created ∧ s'.status = .opened ∨ s'.ended := by
  cases step with
  | start created => exact .inr (.inl ⟨created, rfl⟩)
  | @acquire p request _ _ =>
    obtain ⟨hold, same, _⟩ | ⟨handlers, same⟩ := State.grant_eq
      { s.setPhase p .running with numWaiting := s.numWaiting - 1 } p request
    · rw [same]
      exact .inl rfl
    · rw [same]
      exact .inl rfl
  | @write p index count rest implicit _ _ _ _ =>
    obtain ⟨link, same⟩ := s.write_eq p index rest implicit count
    rw [same]
    exact .inl rfl
  | take _ _ _ delivered =>
    obtain ⟨held', same, _⟩ := State.deliver_eq delivered
    rw [same]
    exact .inl rfl
  | proceed _ goes =>
    obtain ⟨held', status, same, _, _, unchanged | ⟨closed, _⟩⟩ := State.proceed_eq goes
    · rw [same, unchanged]
      exact .inl rfl
    · rw [same, closed]
      exact .inr (.inr ⟨by simp, by simp⟩)
  | writeClose => exact .inr (.inr ⟨by simp, by simp⟩)
  | close => exact .inr (.inr ⟨by simp, by simp⟩)
  | receiveFailed => exact .inr (.inr ⟨by simp, by simp⟩)
  | _ => exact .inl rfl

/-- What has ended is not resumed. -/
theorem Step.ended {s s' : State} {action : Action} (step : Step s action s') (ended : s.ended) :
    s'.ended := by
  obtain same | ⟨created, _⟩ | ended' := step.status
  · exact ⟨by rw [same]; exact ended.1, by rw [same]; exact ended.2⟩
  · exact absurd created ended.1
  · exact ended'

/-- What has been started stays so. -/
theorem Step.started {s s' : State} {action : Action} (step : Step s action s')
    (started : s.status ≠ .created) : s'.status ≠ .created := by
  obtain same | ⟨created, _⟩ | ended := step.status
  · rw [same]
    exact started
  · exact absurd created started
  · exact ended.1

/-- An error of the stream is final. -/
theorem Step.broken {s s' : State} {action : Action} (step : Step s action s')
    (broken : s.link.broken = true) : s'.link.broken = true := by
  cases step with
  | @acquire p request _ _ =>
    obtain ⟨hold, same, _⟩ | ⟨handlers, same⟩ := State.grant_eq
      { s.setPhase p .running with numWaiting := s.numWaiting - 1 } p request
    · rw [same]
      exact broken
    · rw [same]
      exact broken
  | write _ _ _ working => simp [broken] at working
  | take _ _ _ delivered =>
    obtain ⟨held', same, _⟩ := State.deliver_eq delivered
    rw [same]
    exact broken
  | proceed _ goes =>
    obtain ⟨held', status, same, _⟩ := State.proceed_eq goes
    rw [same]
    exact broken
  | writeFailed _ _ => rfl
  | writeFailedImplicitly _ _ => rfl
  | _ => exact broken

/-- A message that has not been flushed is framed by some bytes. -/
theorem MessageOut.framed_ne_nil {m : MessageOut} (unsent : m.buffer ≠ []) : m.framed ≠ [] := by
  have some : 0 < m.buffer.length := List.length_pos_iff.mpr unsent
  intro nothing
  have none := congrArg List.length nothing
  rw [MessageOut.framed, List.length_take, List.length_append, length_headerBytes] at none
  simp only [headerSize, List.length_drop, List.length_nil] at none
  omega

/-- A thread in `lock_message_mutex` is counted, or gets the mutex. -/
theorem Step.of_request {s s' : State} {action : Action} {p : Party} {request : Request}
    (step : Step s action s') (own : action.party = some p)
    (phase : (s.threads p).phase = .called request ∨ (s.threads p).phase = .waiting request) :
    s'.threads p = s.threads p ∨
      action = .announce p ∧ s'.threads p = { s.threads p with phase := .waiting request } ∨
      action = .acquire p ∧ s' = State.grant
        { s.setPhase p .running with numWaiting := s.numWaiting - 1 } p request := by
  have busy : (s.threads p).phase ≠ .running := by
    obtain phase | phase := phase <;> simp [phase]
  have quiet : ∀ index rest implicit, (s.threads p).phase ≠ .writing index rest implicit := by
    obtain phase | phase := phase <;> simp [phase]
  cases step with
  | call runs _ =>
    obtain rfl := Option.some.inj own
    exact absurd (Thread.runsCode_running runs) busy
  | @announce q request' called =>
    obtain rfl := Option.some.inj own
    have same : request' = request := by
      obtain phase | phase := phase
      · exact Phase.called.inj (called.symm.trans phase)
      · simp [called] at phase
    subst same
    exact .inr (.inl ⟨rfl, State.setPhase_self s q _⟩)
  | @acquire q request' waiting _ =>
    obtain rfl := Option.some.inj own
    have same : request' = request := by
      obtain phase | phase := phase
      · simp [waiting] at phase
      · exact Phase.waiting.inj (waiting.symm.trans phase)
    subst same
    exact .inr (.inr ⟨rfl, rfl⟩)
  | append _ runs _ =>
    obtain rfl := Option.some.inj own
    exact absurd (Thread.runsCode_running runs) busy
  | flushNothing _ _ => exact .inl rfl
  | flush code _ _ _ =>
    obtain rfl := Option.some.inj own
    exact absurd (Thread.code_running code) busy
  | flushRefused running _ _ _ =>
    obtain rfl := Option.some.inj own
    exact absurd running busy
  | destroy running _ _ =>
    obtain rfl := Option.some.inj own
    exact absurd running busy
  | destroyUnsent code _ _ _ =>
    obtain rfl := Option.some.inj own
    exact absurd (Thread.code_running code) busy
  | destroyRefused _ _ _ _ => exact .inl rfl
  | write writing _ _ _ =>
    obtain rfl := Option.some.inj own
    exact absurd writing (quiet _ _ _)
  | wrote writing _ =>
    obtain rfl := Option.some.inj own
    exact absurd writing (quiet _ _ _)
  | wroteImplicitly writing =>
    obtain rfl := Option.some.inj own
    exact absurd writing (quiet _ _ _)
  | writeFailed writing _ =>
    obtain rfl := Option.some.inj own
    exact absurd writing (quiet _ _ _)
  | writeFailedImplicitly writing _ =>
    obtain rfl := Option.some.inj own
    exact absurd writing (quiet _ _ _)
  | release runs _ _ =>
    obtain rfl := Option.some.inj own
    exact absurd (Thread.runsCode_running runs) busy
  | take _ running _ _ =>
    obtain rfl := Option.some.inj own
    exact absurd running busy
  | interrupt running _ _ _ =>
    obtain rfl := Option.some.inj own
    exact absurd running busy
  | finish running _ _ =>
    obtain rfl := Option.some.inj own
    exact absurd running busy
  | proceed running _ =>
    obtain rfl := Option.some.inj own
    exact absurd running busy
  | writeClose => exact .inl rfl
  | lock _ running _ =>
    obtain rfl := Option.some.inj own
    exact absurd running busy
  | yield running _ _ =>
    obtain rfl := Option.some.inj own
    exact absurd running busy
  | check running _ _ =>
    obtain rfl := Option.some.inj own
    exact absurd running busy
  | rest running _ =>
    obtain rfl := Option.some.inj own
    exact absurd running busy
  | _ => simp [Action.party] at own

namespace Calling

variable {t : Thread} {m : MessageOut} {base : List Hold}

/-- The message is at hand. -/
theorem own (calling : Calling t m base) : t.outgoing 0 = some m := by
  have first : t.locals[0]? = some (.out m) := by
    rw [Thread.locals, calling.held, List.takeWhile_cons_of_pos (by rfl)]
    rfl
  rw [Thread.outgoing, first]

/-- No other message is the first one. -/
theorem unique (calling : Calling t m base) {m' : MessageOut} (own : t.outgoing 0 = some m') :
    m' = m :=
  Option.some.inj (own.symm.trans calling.own)

end Calling

namespace Stub.Shape

variable {s s' : State} {p : Party}

/-- The steps of others do not change the shape. -/
theorem other {stub : Stub} {action : Action} (shape : stub.Shape s (s.threads p))
    (step : Step s action s') (other : action.party ≠ some p) :
    stub.Shape s' (s'.threads p) := by
  rw [step.threads_of_ne other]
  cases stub with
  | unwinding =>
    obtain ⟨m, base, calling, unsent, ⟨running, doomed⟩ | ⟨broken, writing⟩⟩ := shape
    · exact ⟨m, base, calling, unsent, .inl ⟨running, doomed.imp step.ended step.broken⟩⟩
    · exact ⟨m, base, calling, unsent, .inr ⟨step.broken broken, writing⟩⟩
  | entering => exact ⟨step.started shape.1, shape.2⟩
  | building => exact ⟨step.started shape.1, shape.2⟩
  | _ => exact shape

/-- Outside of stubs. -/
theorem idle {action : Action} {stub : Stub} (locked : Locked s)
    (shape : Stub.idle.Shape s (s.threads p)) (step : Step s action s')
    (own : action.party = some p) (follow : Stub.idle.follow s p action = some stub) :
    stub.Shape s' (s'.threads p) := by
  have stays : (∀ request, action = .call p request → request.Plain) →
      Stub.idle.Shape s' (s'.threads p) := fun plain =>
    Above.step locked shape (.inl rfl) step own plain (fun _ => .inl rfl) fun _ => .inl rfl
  by_cases entering : action = .call p (.startMessage functionCall)
  · subst entering
    simp only [Stub.follow, ne_eq, not_true_eq_false, if_false, Option.ite_none_right_eq_some,
      Option.some.injEq] at follow
    obtain ⟨_, rfl⟩ := follow
    obtain ⟨above, held, plain⟩ := Above.held shape
    cases step with
    | call _ passes =>
      simp only [Request.passes, decide_eq_true_eq] at passes
      rw [State.setPhase_self]
      refine ⟨by rw [State.setPhase, passes]; simp, ?_, .inl rfl⟩
      rw [held, List.append_nil]
      exact plain
  · cases action with
    | call q request =>
      obtain rfl := Option.some.inj own
      cases request with
      | startMessage header =>
        have other : header ≠ functionCall := fun same => entering (by rw [same])
        rw [Stub.follow, if_pos other] at follow
        obtain rfl := Option.some.inj follow
        exact stays (by rintro _ ⟨⟩; exact other)
      | awaitMessage header =>
        rw [Stub.follow, Option.ite_none_right_eq_some] at follow
        obtain ⟨other, same⟩ := follow
        obtain rfl := Option.some.inj same
        exact stays (by rintro _ ⟨⟩; exact other)
      | _ =>
        obtain rfl := Option.some.inj follow
        exact stays (by rintro _ ⟨⟩; trivial)
    | _ =>
      obtain rfl := Option.some.inj follow
      exact stays (by simp)

/-- In `start_message`. -/
theorem entering {action : Action} {stub : Stub} (shape : Stub.entering.Shape s (s.threads p))
    (step : Step s action s') (own : action.party = some p)
    (follow : Stub.entering.follow s p action = some stub) : stub.Shape s' (s'.threads p) := by
  obtain ⟨started, plain, phase⟩ := shape
  cases step with
  | @announce q request called =>
    obtain rfl := Option.some.inj own
    obtain rfl := Option.some.inj follow
    obtain start | waits := phase
    · obtain rfl := Phase.called.inj (called.symm.trans start)
      have counted : Stub.entering.Shape s
          ((s.setPhase q (.waiting (.startMessage functionCall))).threads q) := by
        rw [State.setPhase_self]
        exact ⟨started, plain, .inr rfl⟩
      exact counted
    · simp [called] at waits
  | @acquire q request waiting _ =>
    obtain rfl := Option.some.inj own
    obtain rfl := Option.some.inj follow
    obtain start | waits := phase
    · simp [waiting] at start
    · obtain rfl := Phase.waiting.inj (waiting.symm.trans waits)
      rw [State.grant, State.setHeld_self]
      have same :
          ({ s.setPhase q .running with numWaiting := s.numWaiting - 1 } : State).threads q =
          { s.threads q with phase := .running } := State.setPhase_self s q .running
      rw [same]
      refine ⟨started, .opened functionCall, (s.threads q).held, ⟨rfl, rfl, plain⟩, ?_, .inl rfl⟩
      intro nothing
      have none := congrArg List.length nothing
      rw [MessageOut.opened, length_headerBytes] at none
      contradiction
  | _ => simp [Stub.follow] at follow

/-- Serializing and flushing. -/
theorem building {action : Action} {stub : Stub} (shape : Stub.building.Shape s (s.threads p))
    (step : Step s action s') (own : action.party = some p)
    (follow : Stub.building.follow s p action = some stub) : stub.Shape s' (s'.threads p) := by
  obtain ⟨started, m, base, calling, unsent, phase⟩ := shape
  cases step with
  | @append q index m' bytes runs found =>
    obtain rfl := Option.some.inj own
    cases index with
    | succ index => simp [Stub.follow] at follow
    | zero =>
      obtain rfl := Option.some.inj follow
      obtain rfl := calling.unique found
      have running := Thread.runsCode_running runs
      rw [State.setHeld_self, calling.held]
      refine ⟨started, _, base, ⟨rfl, calling.kind, calling.plain⟩, ?_, .inl running⟩
      exact List.append_ne_nil_of_left_ne_nil unsent bytes
  | @flushNothing q index m' found empty =>
    obtain rfl := Option.some.inj own
    cases index with
    | succ index => simp [Stub.follow] at follow
    | zero =>
      obtain rfl := calling.unique found
      exact absurd empty unsent
  | @flush q index m' code found _ opened =>
    obtain rfl := Option.some.inj own
    cases index with
    | succ index => simp [Stub.follow] at follow
    | zero =>
      obtain rfl := calling.unique found
      simp only [Stub.follow, opened, if_true, Option.some.injEq] at follow
      obtain rfl := follow
      rw [State.setPhase_self]
      exact ⟨started, _, base, ⟨calling.held, calling.kind, calling.plain⟩, unsent, .inr ⟨_, rfl⟩⟩
  | @flushRefused q index m' running found _ refused =>
    obtain rfl := Option.some.inj own
    cases index with
    | succ index => simp [Stub.follow] at follow
    | zero =>
      simp only [Stub.follow, refused, if_false, Option.some.injEq] at follow
      obtain rfl := follow
      obtain ⟨base', unwound, plain⟩ := Base.unwound (.inl rfl) calling.plain
      rw [List.append_nil, List.append_nil] at unwound
      rw [State.setHeld_self, calling.held]
      refine ⟨m, base', ⟨?_, calling.kind, plain⟩, unsent, .inl ⟨running, .inl ⟨started, refused⟩⟩⟩
      simp [unwind, Hold.isObject, unwound]
  | @write q index count rest implicit writing _ _ _ =>
    obtain rfl := Option.some.inj own
    obtain running | ⟨rest', same⟩ := phase
    · simp [running] at writing
    · obtain ⟨rfl, rfl, rfl⟩ := Phase.writing.inj (writing.symm.trans same)
      rw [State.write_own calling.own]
      have after : (({ s.setPhase q (.writing 0 (rest.drop count) false) with
          link := s.link } : State).threads q) =
          { s.threads q with phase := .writing 0 (rest.drop count) false } :=
        State.setPhase_self s q _
      by_cases all : count = rest.length
      · simp only [Stub.follow, State.completes, writing, all, if_true, calling.own,
          Option.map_some, Option.some.injEq] at follow
        obtain rfl := follow
        refine ⟨m, base, ⟨?_, calling.kind, calling.plain⟩, .inl ?_⟩
        · simp [State.setPhase, calling.held]
        · simp [State.setPhase, all]
      · simp only [Stub.follow, State.completes, writing, all, if_false,
          Option.some.injEq] at follow
        obtain rfl := follow
        refine ⟨started, m, base, ⟨?_, calling.kind, calling.plain⟩, unsent,
          .inr ⟨rest.drop count, ?_⟩⟩
        · simp [State.setPhase, calling.held]
        · simp [State.setPhase]
  | @writeFailed q index rest writing _ =>
    obtain rfl := Option.some.inj own
    obtain rfl := Option.some.inj follow
    obtain ⟨base', unwound, plain⟩ := Base.unwound (.inl rfl) calling.plain
    rw [List.append_nil, List.append_nil] at unwound
    refine ⟨m, base', ⟨?_, calling.kind, plain⟩, unsent, .inl ⟨?_, .inr rfl⟩⟩
    · simp [State.setHeld, State.setPhase, calling.held, unwind, Hold.isObject, unwound]
    · simp [State.setHeld, State.setPhase]
  | @writeFailedImplicitly q index rest writing _ =>
    obtain rfl := Option.some.inj own
    obtain running | ⟨rest', same⟩ := phase
    · simp [running] at writing
    · simp [writing] at same
  | _ => simp [Stub.follow] at follow

/-- The call has been sent. -/
theorem sent {call : MessageIn} {number : Nat} {action : Action} {stub : Stub}
    (shape : (Stub.sent call number).Shape s (s.threads p)) (step : Step s action s')
    (own : action.party = some p) (follow : (Stub.sent call number).follow s p action = some stub) :
    stub.Shape s' (s'.threads p) := by
  obtain ⟨m, base, calling, phase⟩ := shape
  cases step with
  | @call q request runs _ =>
    obtain rfl := Option.some.inj own
    cases request with
    | awaitMessage header =>
      simp only [Stub.follow, Option.ite_none_right_eq_some, Option.some.injEq] at follow
      obtain ⟨rfl, rfl⟩ := follow
      obtain writing | ⟨_, empty⟩ := phase
      · have running := Thread.runsCode_running runs
        simp [running] at writing
      · rw [State.setPhase_self]
        exact ⟨m, base, empty, calling.plain, .inl ⟨calling.held, .inl rfl⟩⟩
    | _ => simp [Stub.follow] at follow
  | @wrote q index m' writing found =>
    obtain rfl := Option.some.inj own
    obtain rfl := Option.some.inj follow
    obtain same | ⟨running, _⟩ := phase
    · obtain ⟨rfl, _⟩ := Phase.writing.inj (writing.symm.trans same)
      obtain rfl := calling.unique found
      refine ⟨{ m' with buffer := [] }, base, ⟨?_, calling.kind, calling.plain⟩, .inr ⟨?_, rfl⟩⟩
      · simp [State.setHeld, State.setPhase, calling.held]
      · simp [State.setHeld, State.setPhase]
    · simp [running] at writing
  | @wroteImplicitly q index writing =>
    obtain rfl := Option.some.inj own
    obtain same | ⟨running, _⟩ := phase
    · simp [writing] at same
    · simp [running] at writing
  | _ => simp [Stub.follow] at follow

/-- A thread in `await_message` goes on, with nothing of the stubs, or leaves. -/
theorem of_awaiting {call : MessageIn} {number : Nat} {action : Action} {stub : Stub}
    (own : action.party = some p)
    (follow : (Stub.awaiting call number).follow s p action = some stub) :
    (stub = .awaiting call number ∧ (∀ request, action = .call p request → request.Plain) ∧
      (action = .take p → (s.threads p).awaitsReturn = true → s.returnNext = false) ∧
      (action = .interrupt p → (s.threads p).awaitsReturn = false)) ∨
    (stub = .leaving ∧ (s.threads p).awaitsReturn = true ∧
      (action = .take p ∧ s.returnNext = true ∨ action = .interrupt p)) := by
  cases action with
  | call q request =>
    obtain rfl := Option.some.inj own
    cases request with
    | startMessage header =>
      simp only [Stub.follow, Option.ite_none_right_eq_some, Option.some.injEq] at follow
      exact .inl ⟨follow.2.symm, by rintro _ ⟨⟩; exact follow.1, by simp, by simp⟩
    | awaitMessage header =>
      simp only [Stub.follow, Option.ite_none_right_eq_some, Option.some.injEq] at follow
      exact .inl ⟨follow.2.symm, by rintro _ ⟨⟩; exact follow.1, by simp, by simp⟩
    | _ =>
      obtain rfl := Option.some.inj follow
      exact .inl ⟨rfl, by rintro _ ⟨⟩; trivial, by simp, by simp⟩
  | take q =>
    obtain rfl := Option.some.inj own
    by_cases awaits : (s.threads q).awaitsReturn = true
    · by_cases next : s.returnNext = true
      · simp only [Stub.follow, awaits, next, Bool.and_self, if_true, Option.some.injEq] at follow
        exact .inr ⟨follow.symm, awaits, .inl ⟨rfl, next⟩⟩
      · simp only [Stub.follow, next, Bool.and_false, Bool.false_eq_true, if_false,
          Option.some.injEq] at follow
        exact .inl ⟨follow.symm, by simp, fun _ _ => by simpa using next, by simp⟩
    · simp only [Stub.follow, awaits, Bool.false_and, Bool.false_eq_true, if_false,
        Option.some.injEq] at follow
      exact .inl ⟨follow.symm, by simp, fun _ now => absurd now awaits, by simp⟩
  | interrupt q =>
    obtain rfl := Option.some.inj own
    by_cases awaits : (s.threads q).awaitsReturn = true
    · simp only [Stub.follow, awaits, if_true, Option.some.injEq] at follow
      exact .inr ⟨follow.symm, awaits, .inr rfl⟩
    · simp only [Stub.follow, awaits, Bool.false_eq_true, if_false, Option.some.injEq] at follow
      exact .inl ⟨follow.symm, by simp, by simp, fun _ => by simpa using awaits⟩
  | _ =>
    obtain rfl := Option.some.inj follow
    exact .inl ⟨rfl, by simp, by simp, by simp⟩

/-- In `await_message`. -/
theorem awaiting {call : MessageIn} {number : Nat} {action : Action} {stub : Stub}
    (locked : Locked s) (shape : (Stub.awaiting call number).Shape s (s.threads p))
    (step : Step s action s') (own : action.party = some p)
    (follow : (Stub.awaiting call number).follow s p action = some stub) :
    stub.Shape s' (s'.threads p) := by
  obtain ⟨m, base, empty, plain, ⟨held, phase⟩ | above⟩ := shape
  · -- before the lock is taken there is no loop to leave
    have outside : (s.threads p).awaitsReturn = false := by
      simp [Thread.awaitsReturn, held]
    obtain ⟨rfl, _⟩ | ⟨_, inside, _⟩ := of_awaiting own follow
    · obtain same | ⟨_, same⟩ | ⟨_, same⟩ := step.of_request own phase
      · rw [same]
        exact ⟨m, base, empty, plain, .inl ⟨held, phase⟩⟩
      · rw [same]
        exact ⟨m, base, empty, plain, .inl ⟨held, .inr rfl⟩⟩
      · refine ⟨m, base, empty, plain, .inr ?_⟩
        rw [same]
        refine Above.setHeld (by simp [State.setPhase]) ⟨[], ?_, by simp⟩
        simp [State.setPhase, held]
    · simp [outside] at inside
  · have isBase : Base (.await functionReturn :: .out m :: base) := .inr ⟨_, rfl⟩
    -- only the stub's own call awaits a reply
    have loop : (s.threads p).awaitsReturn = true →
        (s.threads p).held = .await functionReturn :: .out m :: base := by
      intro inside
      obtain ⟨list, held, plainList⟩ := above.held
      cases list with
      | nil => exact held
      | cons first others =>
        have firstPlain := plainList first (by simp)
        rw [List.cons_append] at held
        cases first with
        | await header =>
          simp only [Thread.awaitsReturn, held, decide_eq_true_eq] at inside
          exact absurd inside firstPlain
        | _ => simp [Thread.awaitsReturn, held] at inside
    have apart : (s.threads p).awaitsReturn = false →
        (s.threads p).held ≠ .await functionReturn :: .out m :: base := by
      intro outside held
      simp [Thread.awaitsReturn, held] at outside
    obtain ⟨rfl, request, take, interrupt⟩ | ⟨rfl, inside, ending⟩ := of_awaiting own follow
    · refine ⟨m, base, empty, plain, .inr ?_⟩
      refine above.step locked isBase step own request ?_ ?_
      · intro taking
        cases inside : (s.threads p).awaitsReturn with
        | true => exact .inr (.inr (take taking inside))
        | false => exact .inr (.inl (apart inside))
      · exact fun leaving => .inr (apart (interrupt leaving))
    · have held := loop inside
      obtain ⟨rfl, next⟩ | rfl := ending
      · cases step with
        | @take _ reply queue result first running _ delivered =>
          have kind : reply.header = functionReturn := by
            simpa [State.returnNext, first] using next
          rw [held] at delivered
          simp only [State.deliver, kind, if_true, Option.some.injEq] at delivered
          obtain rfl := delivered
          refine ⟨m, base, empty, plain, ?_, .inr ⟨reply, ?_⟩⟩
          · simp [State.setHeld, running]
          · simp [State.setHeld]
      · cases step with
        | interrupt running _ held' _ =>
          obtain ⟨_, rfl⟩ := List.cons.inj (held'.symm.trans held)
          refine ⟨m, base, empty, plain, ?_, .inl ?_⟩
          · simp [State.setHeld, running]
          · simp [State.setHeld]

/-- After `await_message`. -/
theorem leaving {action : Action} {stub : Stub} (shape : Stub.leaving.Shape s (s.threads p))
    (step : Step s action s') (own : action.party = some p)
    (follow : Stub.leaving.follow s p action = some stub) : stub.Shape s' (s'.threads p) := by
  obtain ⟨m, base, empty, plain, running, held⟩ := shape
  have first : (s.threads p).locals[0]? = (s.threads p).held[0]? := by
    obtain held | ⟨reply, held⟩ := held
    · rw [Thread.locals, held, List.takeWhile_cons_of_pos (by rfl)]
      rfl
    · rw [Thread.locals, held, List.takeWhile_cons_of_pos (by rfl)]
      rfl
  have owned : ∀ {m' : MessageOut}, (s.threads p).outgoing 0 = some m' →
      m' = m ∧ (s.threads p).held = .out m :: base := by
    intro m' own
    have found := Thread.local_of_outgoing own
    rw [first] at found
    obtain held | ⟨reply, held⟩ := held
    · simp only [held, List.getElem?_cons_zero, Option.some.injEq, Hold.out.injEq] at found
      exact ⟨found.symm, held⟩
    · simp [held] at found
  cases step with
  | @release q index hold _ found kind =>
    obtain rfl := Option.some.inj own
    cases index with
    | succ index => simp [Stub.follow] at follow
    | zero =>
      obtain rfl := Option.some.inj follow
      rw [first] at found
      rw [State.setHeld_self]
      obtain held | ⟨reply, held⟩ := held
      · obtain rfl | ⟨_, rfl⟩ := kind <;> simp [held] at found
      · exact ⟨m, base, empty, plain, running, .inl (by simp [held])⟩
  | @destroy q index m' _ found _ =>
    obtain rfl := Option.some.inj own
    cases index with
    | succ index => simp [Stub.follow] at follow
    | zero =>
      obtain rfl := Option.some.inj follow
      obtain ⟨_, held⟩ := owned found
      refine Above.setHeld running ⟨base, ?_, plain⟩
      simp [held]
  | @destroyUnsent q index m' _ found unsent _ =>
    obtain rfl := Option.some.inj own
    cases index with
    | succ index => simp [Stub.follow] at follow
    | zero =>
      obtain ⟨rfl, _⟩ := owned found
      exact absurd empty unsent
  | @destroyRefused q index m' _ found unsent _ =>
    obtain rfl := Option.some.inj own
    cases index with
    | succ index => simp [Stub.follow] at follow
    | zero =>
      obtain ⟨rfl, _⟩ := owned found
      exact absurd empty unsent
  | _ => simp [Stub.follow] at follow

/-- After an exception in the stub. The message is not sent: the transport is no longer open, or the
stream has failed. -/
theorem unwinding {action : Action} {stub : Stub} (shape : Stub.unwinding.Shape s (s.threads p))
    (step : Step s action s') (own : action.party = some p)
    (follow : Stub.unwinding.follow s p action = some stub) : stub.Shape s' (s'.threads p) := by
  obtain ⟨m, base, calling, unsent, phase⟩ := shape
  cases step with
  | @destroy q index m' _ found empty =>
    obtain rfl := Option.some.inj own
    cases index with
    | succ index => simp [Stub.follow] at follow
    | zero =>
      obtain rfl := calling.unique found
      exact absurd empty unsent
  | @destroyUnsent q index m' code found _ opened =>
    obtain rfl := Option.some.inj own
    cases index with
    | succ index => simp [Stub.follow] at follow
    | zero =>
      obtain rfl := Option.some.inj follow
      obtain rfl := calling.unique found
      have broken : s.link.broken = true := by
        obtain ⟨_, ended | broken⟩ | ⟨broken, _⟩ := phase
        · exact absurd opened ended.2
        · exact broken
        · exact broken
      rw [State.setPhase_self]
      exact ⟨_, base, ⟨calling.held, calling.kind, calling.plain⟩, unsent,
        .inr ⟨broken, _, MessageOut.framed_ne_nil unsent, rfl⟩⟩
  | @destroyRefused q index m' running found _ refused =>
    obtain rfl := Option.some.inj own
    cases index with
    | succ index => simp [Stub.follow] at follow
    | zero =>
      obtain rfl := Option.some.inj follow
      exact ⟨m, base, calling, unsent, phase⟩
  | @write q index count rest implicit writing _ _ working =>
    obtain rfl := Option.some.inj own
    obtain ⟨running, _⟩ | ⟨broken, _⟩ := phase
    · simp [running] at writing
    · simp [broken] at working
  | @wrote q index m' writing found =>
    obtain rfl := Option.some.inj own
    obtain ⟨running, _⟩ | ⟨_, rest, some, same⟩ := phase
    · simp [running] at writing
    · simp [writing] at same
  | @wroteImplicitly q index writing =>
    obtain rfl := Option.some.inj own
    obtain ⟨running, _⟩ | ⟨_, rest, some, same⟩ := phase
    · simp [running] at writing
    · obtain ⟨_, rfl, _⟩ := Phase.writing.inj (writing.symm.trans same)
      exact absurd rfl some
  | @writeFailed q index rest writing _ =>
    obtain rfl := Option.some.inj own
    obtain ⟨running, _⟩ | ⟨_, rest, some, same⟩ := phase
    · simp [running] at writing
    · simp [writing] at same
  | @writeFailedImplicitly q index rest writing _ =>
    obtain rfl := Option.some.inj own
    obtain rfl := Option.some.inj follow
    refine ⟨m, base, ⟨?_, calling.kind, calling.plain⟩, unsent, .inl ⟨?_, .inr rfl⟩⟩
    · simp [State.setPhase, calling.held]
    · simp [State.setPhase]
  | _ => simp [Stub.follow] at follow

/-- A step of the thread leads to the shape of the next phase. -/
theorem step {action : Action} {stub stub' : Stub} (locked : Locked s)
    (shape : stub.Shape s (s.threads p)) (step : Step s action s') (own : action.party = some p)
    (follow : stub.follow s p action = some stub') : stub'.Shape s' (s'.threads p) := by
  cases stub with
  | idle => exact shape.idle locked step own follow
  | entering => exact shape.entering step own follow
  | building => exact shape.building step own follow
  | sent call number => exact shape.sent step own follow
  | awaiting call number => exact shape.awaiting locked step own follow
  | leaving => exact shape.leaving step own follow
  | unwinding => exact shape.unwinding step own follow

end Stub.Shape

end XrTransport.Transport
