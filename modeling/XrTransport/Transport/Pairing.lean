import XrTransport.Transport.Receiving
import XrTransport.Transport.StubShape

/-!
# Request/reply pairing

Replies carry no number. A stub has the message mutex from before its call is flushed until it has
taken the reply, so at most one stub is owed a reply, and the calls that have been sent and the
replies that have been taken from the queue differ by that one at most: the next reply in the queue
is the answer to the stub's own call.
-/
namespace XrTransport.Transport

/-- The call of that number has been sent, and the stub is waiting for the reply. -/
def Stub.Owed (stub : Stub) (call : MessageIn) (number : Nat) : Prop :=
  stub = .sent call number ∨ stub = .awaiting call number

/-- How many replies have been taken from the queue. -/
def State.replied (s : State) : Nat := (returns (s.taken.map Taken.message)).length

/-- The message that is complete after a step. -/
def State.sends (s : State) : Action → List MessageIn
  | .write p count => (s.completes p count).toList
  | _ => []

/-- A message is flushed when the stream takes its last bytes. -/
theorem Step.flushed {s s' : State} {action : Action} (locked : Locked s)
    (step : Step s action s') : s'.link.flushed = s.link.flushed ++ s.sends action := by
  cases step with
  | @acquire p request _ _ =>
    obtain ⟨hold, same, _⟩ | ⟨handlers, same⟩ := State.grant_eq
      { s.setPhase p .running with numWaiting := s.numWaiting - 1 } p request
    · rw [same]
      simp [State.sends, State.setHeld, State.setPhase]
    · rw [same]
      simp [State.sends, State.setPhase]
  | @write p index count rest implicit writing _ _ _ =>
    obtain ⟨m, own, _⟩ := locked.writing p _ _ _ writing
    rw [State.write_own own]
    by_cases all : count = rest.length
    · simp [State.sends, State.completes, writing, own, all]
    · simp [State.sends, State.completes, writing, all]
  | take _ _ _ delivered =>
    obtain ⟨held', same, _⟩ := State.deliver_eq delivered
    rw [same]
    simp [State.sends, State.setHeld]
  | proceed _ goes =>
    obtain ⟨held', status, same, _⟩ := State.proceed_eq goes
    rw [same]
    simp [State.sends, State.setHeld]
  | _ => simp [State.sends, State.setHeld, State.setPhase]

/-- The calls grow by those that are complete. -/
theorem Step.calls {s s' : State} {action : Action} (locked : Locked s) (step : Step s action s') :
    calls s' = calls s ++ (s.sends action).filter fun m => m.header = functionCall := by
  rw [Transport.calls, step.flushed locked, List.filter_append]
  rfl

/-- Taking a reply from the queue counts. -/
theorem Step.replied {s s' : State} {action : Action} (step : Step s action s') :
    s'.replied = s.replied ∧ (∀ p, action = .take p → s.returnNext = false) ∨
      s'.replied = s.replied + 1 ∧ s.returnNext = true ∧ ∃ p, action = .take p := by
  cases step with
  | @acquire p request _ _ =>
    obtain ⟨hold, same, _⟩ | ⟨handlers, same⟩ := State.grant_eq
      { s.setPhase p .running with numWaiting := s.numWaiting - 1 } p request
    · rw [same]
      exact .inl ⟨rfl, by simp⟩
    · rw [same]
      exact .inl ⟨rfl, by simp⟩
  | @write p index count rest implicit _ _ _ _ =>
    obtain ⟨link, same⟩ := s.write_eq p index rest implicit count
    rw [same]
    exact .inl ⟨rfl, by simp⟩
  | @take p m queue result first _ _ _ =>
    by_cases kind : m.header = functionReturn
    · refine .inr ⟨?_, by simp [State.returnNext, first, kind], p, rfl⟩
      simp [State.replied, returns, kind]
    · refine .inl ⟨?_, by simp [State.returnNext, first, kind]⟩
      simp [State.replied, returns, kind]
  | proceed _ goes =>
    obtain ⟨held', status, same, _⟩ := State.proceed_eq goes
    rw [same]
    exact .inl ⟨rfl, by simp⟩
  | _ => exact .inl ⟨rfl, by simp⟩

/-- A message above is not a call. -/
theorem Above.kind {t : Thread} {tail : List Hold} (above : Above t tail) (base : Base tail)
    {index : Nat} {m : MessageOut} (own : t.outgoing index = some m) : m.header ≠ functionCall := by
  obtain ⟨list, held, plain⟩ := above.held
  have found := base.locals held (Thread.local_of_outgoing own)
  exact plain (.out m) (List.mem_of_getElem? found)

namespace Stub.Shape

variable {s s' : State} {p : Party} {stub stub' : Stub} {action : Action}

/-- A stub that is owed a reply has locks. -/
theorem held_of_owed (shape : stub.Shape s (s.threads p)) {call : MessageIn} {number : Nat}
    (owed : stub.Owed call number) : (s.threads p).held ≠ [] := by
  obtain rfl | rfl := owed
  · obtain ⟨m, base, calling, _⟩ := shape
    simp [calling.held]
  · obtain ⟨m, base, _, _, ⟨held, _⟩ | above⟩ := shape
    · simp [held]
    · obtain ⟨list, held, _⟩ := above.held
      simp [held]


/-- Outside of stubs a thread stays outside, or starts a call. -/
theorem of_idle (own : action.party = some p)
    (follow : Stub.idle.follow s p action = some stub') :
    stub' = .idle ∨ stub' = .entering ∧ action = .call p (.startMessage functionCall) ∧
      (s.threads p).frame = none := by
  cases action with
  | call q request =>
    obtain rfl := Option.some.inj own
    cases request with
    | startMessage header =>
      by_cases other : header ≠ functionCall
      · rw [Stub.follow, if_pos other] at follow
        exact .inl (Option.some.inj follow).symm
      · rw [Stub.follow, if_neg other, Option.ite_none_right_eq_some] at follow
        rw [ne_eq, not_not] at other
        exact .inr ⟨(Option.some.inj follow.2).symm, by rw [other], follow.1⟩
    | awaitMessage header =>
      rw [Stub.follow, Option.ite_none_right_eq_some] at follow
      exact .inl (Option.some.inj follow.2).symm
    | _ => exact .inl (Option.some.inj follow).symm
  | _ => exact .inl (Option.some.inj follow).symm

/-- A stub that has entered goes on to its message. -/
theorem of_entering (own : action.party = some p)
    (follow : Stub.entering.follow s p action = some stub') :
    stub' = .entering ∨ stub' = .building ∧ action = .acquire p := by
  cases action with
  | announce q => exact .inl (Option.some.inj follow).symm
  | acquire q =>
    obtain rfl := Option.some.inj own
    exact .inr ⟨(Option.some.inj follow).symm, rfl⟩
  | _ => simp [Stub.follow] at follow

/-- A stub stays with its message until the last bytes are handed to the stream. -/
theorem of_building (own : action.party = some p)
    (follow : Stub.building.follow s p action = some stub') :
    (stub' = .building ∨ stub' = .unwinding) ∧ (∀ q, action ≠ .take q) ∨
      ∃ count call, stub' = .sent call (calls s).length ∧ action = .write p count ∧
        s.completes p count = some call := by
  cases action with
  | append q index bytes =>
    cases index with
    | zero => exact .inl ⟨.inl (Option.some.inj follow).symm, by simp⟩
    | succ index => simp [Stub.follow] at follow
  | flush q index =>
    cases index with
    | zero =>
      by_cases opened : s.status = .opened
      · rw [Stub.follow, if_pos opened] at follow
        exact .inl ⟨.inl (Option.some.inj follow).symm, by simp⟩
      · rw [Stub.follow, if_neg opened] at follow
        exact .inl ⟨.inr (Option.some.inj follow).symm, by simp⟩
    | succ index => simp [Stub.follow] at follow
  | write q count =>
    obtain rfl := Option.some.inj own
    cases completes : s.completes q count with
    | some call =>
      simp only [Stub.follow, completes, Option.some.injEq] at follow
      exact .inr ⟨count, call, follow.symm, rfl, completes⟩
    | none =>
      simp only [Stub.follow, completes, Option.some.injEq] at follow
      exact .inl ⟨.inl follow.symm, by simp⟩
  | writeFailed q => exact .inl ⟨.inr (Option.some.inj follow).symm, by simp⟩
  | _ => simp [Stub.follow] at follow

/-- A stub whose call is complete goes on to wait for the reply. -/
theorem of_sent {call : MessageIn} {number : Nat}
    (follow : (Stub.sent call number).follow s p action = some stub') :
    stub' = .sent call number ∨ stub' = .awaiting call number := by
  cases action with
  | wrote q => exact .inl (Option.some.inj follow).symm
  | call q request =>
    cases request with
    | awaitMessage header =>
      rw [Stub.follow, Option.ite_none_right_eq_some] at follow
      exact .inr (Option.some.inj follow.2).symm
    | _ => simp [Stub.follow] at follow
  | _ => simp [Stub.follow] at follow

/-- A stub that has its reply destroys its objects. -/
theorem of_leaving (follow : Stub.leaving.follow s p action = some stub') :
    stub' = .leaving ∨ stub' = .idle := by
  cases action with
  | release q index =>
    cases index with
    | zero => exact .inl (Option.some.inj follow).symm
    | succ index => simp [Stub.follow] at follow
  | destroy q index =>
    cases index with
    | zero => exact .inr (Option.some.inj follow).symm
    | succ index => simp [Stub.follow] at follow
  | _ => simp [Stub.follow] at follow

/-- A stub that has thrown destroys its message. -/
theorem of_unwinding (follow : Stub.unwinding.follow s p action = some stub') :
    stub' = .unwinding ∨ stub' = .idle := by
  cases action with
  | destroy q index =>
    cases index with
    | zero => exact .inl (Option.some.inj follow).symm
    | succ index => simp [Stub.follow] at follow
  | write q count => exact .inl (Option.some.inj follow).symm
  | wrote q => exact .inr (Option.some.inj follow).symm
  | writeFailed q => exact .inl (Option.some.inj follow).symm
  | _ => simp [Stub.follow] at follow

/-- A stub is owed a reply when it was before, or when its call becomes complete. -/
theorem owed_of_follow (own : action.party = some p) (follow : stub.follow s p action = some stub')
    {call : MessageIn} {number : Nat} (owed : stub'.Owed call number) :
    stub.Owed call number ∨ stub = .building ∧ number = (calls s).length ∧
      ∃ count, action = .write p count ∧ s.completes p count = some call := by
  cases stub with
  | idle =>
    obtain rfl | ⟨rfl, _⟩ := of_idle own follow <;> simp [Stub.Owed] at owed
  | entering =>
    obtain rfl | ⟨rfl, _⟩ := of_entering own follow <;> simp [Stub.Owed] at owed
  | building =>
    obtain ⟨rfl | rfl, _⟩ | ⟨count, call', rfl, rfl, completes⟩ := of_building own follow
    · simp [Stub.Owed] at owed
    · simp [Stub.Owed] at owed
    · simp only [Stub.Owed, Stub.sent.injEq, reduceCtorEq, or_false] at owed
      obtain ⟨rfl, rfl⟩ := owed
      exact .inr ⟨rfl, rfl, count, rfl, completes⟩
  | sent call' number' =>
    have same : call = call' ∧ number = number' := by
      obtain rfl | rfl := of_sent follow
      · simpa [Stub.Owed, eq_comm] using owed
      · simpa [Stub.Owed, eq_comm] using owed
    obtain ⟨rfl, rfl⟩ := same
    exact .inl (.inl rfl)
  | awaiting call' number' =>
    obtain ⟨rfl, _⟩ | ⟨rfl, _⟩ := of_awaiting own follow
    · exact .inl owed
    · simp [Stub.Owed] at owed
  | leaving => obtain rfl | rfl := of_leaving follow <;> simp [Stub.Owed] at owed
  | unwinding => obtain rfl | rfl := of_unwinding follow <;> simp [Stub.Owed] at owed

/-- A stub is owed a reply until a reply is taken or the transport is closed. -/
theorem owed_until (step : Step s action s') (own : action.party = some p)
    (follow : stub.follow s p action = some stub') {call : MessageIn} {number : Nat}
    (owed : stub.Owed call number) :
    stub'.Owed call number ∨ action = .take p ∧ s.returnNext = true ∨ s'.ended := by
  obtain rfl | rfl := owed
  · exact .inl (of_sent follow)
  · obtain ⟨rfl, _⟩ | ⟨_, _, taking | leaving⟩ := of_awaiting own follow
    · exact .inl (.inr rfl)
    · exact .inr (.inl taking)
    · subst leaving
      cases step with
      | interrupt _ closed _ _ =>
        right
        right
        exact ⟨by simp [State.setHeld, closed], by simp [State.setHeld, closed]⟩

/-- A stub that is with its message was so before, or has just got the mutex. -/
theorem building_of_follow (own : action.party = some p)
    (follow : stub.follow s p action = some .building) :
    stub = .building ∧ (∀ q, action ≠ .take q) ∨ action = .acquire p := by
  cases stub with
  | idle => obtain same | ⟨same, _⟩ := of_idle own follow <;> contradiction
  | entering =>
    obtain same | ⟨_, acquire⟩ := of_entering own follow
    · contradiction
    · exact .inr acquire
  | building =>
    obtain ⟨_, other⟩ | ⟨_, _, same, _⟩ := of_building own follow
    · exact .inl ⟨rfl, other⟩
    · contradiction
  | sent _ _ => obtain same | same := of_sent follow <;> contradiction
  | awaiting _ _ => obtain ⟨same, _⟩ | ⟨same, _⟩ := of_awaiting own follow <;> contradiction
  | leaving => obtain same | same := of_leaving follow <;> contradiction
  | unwinding => obtain same | same := of_unwinding follow <;> contradiction

/-- A stub begins to write while the transport is open. -/
theorem writing_of_follow (step : Step s action s') (own : action.party = some p)
    (follow : stub.follow s p action = some stub') (after : stub' = .building)
    {rest : List UInt8} (writing : (s'.threads p).phase = .writing 0 rest false) :
    stub = .building ∧ (∀ q, action ≠ .take q) ∧
      (s.status = .opened ∨ ∃ rest, (s.threads p).phase = .writing 0 rest false) := by
  subst after
  have idle : action ≠ .acquire p := by
    rintro rfl
    cases step with
    | @acquire q request _ _ =>
      have running : ((State.grant { s.setPhase p .running with
          numWaiting := s.numWaiting - 1 } p request).threads p).phase = .running := by
        cases request <;> simp [State.grant, State.setHeld, State.setPhase]
      simp [running] at writing
  obtain ⟨rfl, other⟩ | acquire := building_of_follow own follow
  · refine ⟨rfl, other, ?_⟩
    cases step with
    | append _ runs _ =>
      obtain rfl := Option.some.inj own
      simp [State.setHeld, Thread.runsCode_running runs] at writing
    | flushNothing _ _ => exact .inr ⟨rest, writing⟩
    | flush _ _ _ opened => exact .inl opened
    | flushRefused running _ _ _ =>
      obtain rfl := Option.some.inj own
      simp [State.setHeld, running] at writing
    | @write q index count rest' implicit before _ _ _ =>
      obtain rfl := Option.some.inj own
      obtain ⟨link, changed⟩ := s.write_eq q index rest' implicit count
      have here : Phase.writing index (rest'.drop count) implicit = .writing 0 rest false := by
        rw [← writing, changed]
        simp [State.setPhase]
      obtain ⟨rfl, _, rfl⟩ := Phase.writing.inj here
      exact .inr ⟨rest', before⟩
    | @writeFailed q index _ _ _ =>
      obtain rfl := Option.some.inj own
      simp [State.setHeld, State.setPhase] at writing
    | @writeFailedImplicitly q index _ _ _ =>
      obtain rfl := Option.some.inj own
      simp [State.setPhase] at writing
    | _ => simp [Stub.follow] at follow
  · exact absurd acquire idle

/-- A thread sends a call when it is the call of its stub that becomes complete. -/
theorem sends_of_follow (locked : Locked s) (shape : stub.Shape s (s.threads p))
    (step : Step s action s') (own : action.party = some p)
    (follow : stub.follow s p action = some stub') :
    (∃ call rest, stub = .building ∧ (s.threads p).phase = .writing 0 rest false ∧
      stub' = .sent call (calls s).length ∧ s.sends action = [call] ∧
      call.header = functionCall ∧ ∃ count, action = .write p count) ∨
    ((s.sends action).filter fun m => m.header = functionCall) = [] ∧
      ∀ call number, stub'.Owed call number → stub.Owed call number := by
  by_cases writes : ∃ count, action = .write p count
  · obtain ⟨count, rfl⟩ := writes
    cases step with
    | @write _ index _ rest implicit writing _ _ working =>
      obtain ⟨m, outgoing, _⟩ := locked.writing p _ _ _ writing
      have completes : s.completes p count =
          if count = rest.length then some m.message else none := by
        simp [State.completes, writing, outgoing]
      have quiet : m.header ≠ functionCall → stub ≠ .building →
          ((s.sends (.write p count)).filter fun m => m.header = functionCall) = [] ∧
            ∀ call number, stub'.Owed call number → stub.Owed call number := by
        intro kind other
        constructor
        · rw [State.sends, completes]
          by_cases all : count = rest.length <;> simp [all, MessageOut.message, kind]
        · intro call number owed
          obtain before | ⟨here, _⟩ := owed_of_follow own follow owed
          · exact before
          · exact absurd here other
      cases stub with
      | idle => exact .inr (quiet (Above.kind shape (.inl rfl) outgoing) (by simp))
      | building =>
        obtain ⟨_, m', base, calling, _, running | ⟨rest', same⟩⟩ := shape
        · simp [running] at writing
        · obtain ⟨rfl, rfl, rfl⟩ := Phase.writing.inj (writing.symm.trans same)
          obtain rfl := calling.unique outgoing
          by_cases all : count = rest.length
          · rw [if_pos all] at completes
            simp only [Stub.follow, completes, Option.some.injEq] at follow
            refine .inl ⟨m.message, rest, rfl, writing, follow.symm, ?_, calling.kind, count, rfl⟩
            simp [State.sends, completes]
          · rw [if_neg all] at completes
            simp only [Stub.follow, completes, Option.some.injEq] at follow
            subst follow
            refine .inr ⟨by simp [State.sends, completes], ?_⟩
            intro call number owed
            exact owed
      | awaiting call number =>
        obtain ⟨m', base, _, _, ⟨_, phase⟩ | above⟩ := shape
        · simp [writing] at phase
        · exact .inr (quiet (above.kind (.inr ⟨_, rfl⟩) outgoing) (by simp))
      | unwinding =>
        obtain ⟨_, _, _, _, ⟨running, _⟩ | ⟨broken, _⟩⟩ := shape
        · simp [running] at writing
        · simp [broken] at working
      | _ => simp [Stub.follow] at follow
  · refine .inr ⟨?_, ?_⟩
    · cases action with
      | write q count =>
        obtain rfl := Option.some.inj own
        exact absurd ⟨count, rfl⟩ writes
      | _ => rfl
    · intro call number owed
      obtain before | ⟨_, _, count, write, _⟩ := owed_of_follow own follow owed
      · exact before
      · exact absurd ⟨count, write⟩ writes

end Stub.Shape

/-- What holds of the client and its peer at any time. -/
structure Paired (answer : Nat → MessageIn → List UInt8) (c : Client) : Prop where
  /-- The threads take turns. -/
  locked : Locked c.transport
  /-- Messages arrive in order. -/
  received : Received c.transport
  /-- The threads are where their stubs are. -/
  shape : ∀ p, (c.stub p).Shape c.transport (c.transport.threads p)
  /-- The consumer is in no stub. -/
  consumer : c.stub .consumer = .idle
  /-- The peer's payloads have sizes of 32 bits. -/
  small : ∀ m ∈ c.peer, m.Small
  /-- What arrives has been sent by the peer. -/
  channel : c.transport.inbox.arrived <+: MessageIn.stream c.peer
  /-- The peer has answered the first of the calls. -/
  replies : ∀ (number : Nat) reply, (returns c.peer)[number]? = some reply →
    ∃ call, (calls c.transport)[number]? = some call ∧
      reply = ⟨functionReturn, answer number call⟩
  /-- While no stub is owed a reply, all replies have been taken. -/
  free : (∀ p call number, ¬(c.stub p).Owed call number) → ¬c.transport.ended →
    c.transport.replied = (calls c.transport).length
  /-- That is so when a stub writes its call. -/
  writing : ∀ p rest, c.stub p = .building →
    (c.transport.threads p).phase = .writing 0 rest false →
    c.transport.replied = (calls c.transport).length
  /-- A stub that is owed a reply has sent the last call. -/
  owed : ∀ p call number, (c.stub p).Owed call number →
    number + 1 = (calls c.transport).length ∧ (calls c.transport)[number]? = some call ∧
      (c.transport.replied = number ∨ c.transport.replied = (calls c.transport).length)
  /-- Stubs have got their replies. -/
  exchanges : ∀ e ∈ c.exchanges, (calls c.transport)[e.number]? = some e.call ∧
    e.reply = ⟨functionReturn, answer e.number e.call⟩

namespace Paired

variable {answer : Nat → MessageIn → List UInt8} {c c' : Client}

/-- A stub that is owed a reply has locks. -/
theorem held (paired : Paired answer c) {p : Party} {call : MessageIn} {number : Nat}
    (owed : (c.stub p).Owed call number) : (c.transport.threads p).held ≠ [] :=
  (paired.shape p).held_of_owed owed

/-- The next reply in the queue answers the call of that number. -/
theorem next (paired : Paired answer c) {m : MessageIn} {queue : List MessageIn}
    (first : c.transport.inbox.queue = m :: queue) (kind : m.header = functionReturn) :
    ∃ call, (calls c.transport)[c.transport.replied]? = some call ∧
      m = ⟨functionReturn, answer c.transport.replied call⟩ := by
  obtain ⟨read, part, whole, framed, _⟩ := paired.received.inbox.framed
  have start : read <+: MessageIn.stream c.peer := by
    refine List.IsPrefix.trans ⟨part ++ c.transport.inbox.incoming, ?_⟩ paired.channel
    rw [whole, List.append_assoc]
  obtain ⟨⟨rest, order⟩, _⟩ := framed.prefix_of_stream paired.small start
  refine paired.replies c.transport.replied m ?_
  rw [← order, paired.received.queue, first]
  simp [returns, State.replied, kind]

/-- A reply in the queue is the answer to a call whose reply has not been taken. -/
theorem replied_lt (paired : Paired answer c) (next : c.transport.returnNext = true) :
    c.transport.replied < (calls c.transport).length := by
  cases first : c.transport.inbox.queue with
  | nil => simp [State.returnNext, first] at next
  | cons m queue =>
    have kind : m.header = functionReturn := by simpa [State.returnNext, first] using next
    obtain ⟨call, found, _⟩ := paired.next first kind
    exact (List.getElem?_eq_some_iff.mp found).1

/-- A step of no stub's thread keeps the pairing. -/
theorem quiet (paired : Paired answer c) {action : Action} {s : State}
    (step : Step c.transport action s) (nobody : action.party = none)
    (own : ∀ bytes, action ≠ .arrive bytes) : Paired answer { c with transport := s } := by
  have other : ∀ p, action.party ≠ some p := by simp [nobody]
  have calls : calls s = calls c.transport := by
    rw [step.calls paired.locked]
    cases action with
    | write p count => simp [Action.party] at nobody
    | _ => simp [State.sends]
  have replied : s.replied = c.transport.replied := by
    obtain ⟨same, _⟩ | ⟨_, _, p, rfl⟩ := step.replied
    · exact same
    · simp [Action.party] at nobody
  constructor
  · exact paired.locked.step step
  · exact paired.received.step step
  · exact fun p => (paired.shape p).other step (other p)
  · exact paired.consumer
  · exact paired.small
  · rw [step.arrived_eq own]
    exact paired.channel
  · rw [calls]
    exact paired.replies
  · intro none going
    rw [calls, replied]
    exact paired.free none fun before => going (step.ended before)
  · intro p rest building writing
    rw [step.threads_of_ne (other p)] at writing
    rw [calls, replied]
    exact paired.writing p rest building writing
  · rw [calls, replied]
    exact paired.owed
  · rw [calls]
    exact paired.exchanges

/-- The reply a stub gets is the answer to its call. -/
theorem gets (paired : Paired answer c) {p : Party} {action : Action} {s : State} {stub' : Stub}
    (step : Step c.transport action s) (own : action.party = some p)
    (follow : (c.stub p).follow c.transport p action = some stub') :
    ∀ e ∈ (c.stub p).gets c.transport p action,
      (calls c.transport)[e.number]? = some e.call ∧
        e.reply = ⟨functionReturn, answer e.number e.call⟩ := by
  intro e member
  unfold Stub.gets at member
  split at member
  · rename_i call number q stub
    split at member
    · rename_i reply queue awaits first
      obtain rfl := List.mem_singleton.mp member
      have next : c.transport.returnNext = true := (Bool.and_eq_true_iff.mp awaits).2
      have kind : reply.header = functionReturn := by
        simpa [State.returnNext, first] using next
      obtain ⟨call', found, rfl⟩ := paired.next first kind
      obtain ⟨last, mine, count⟩ := paired.owed p call number (.inr stub)
      have less := paired.replied_lt next
      have here : c.transport.replied = number := by omega
      rw [here, mine] at found
      obtain rfl := Option.some.inj found
      rw [here]
      exact ⟨mine, rfl⟩
    · simp at member
  · simp at member

/-- Calls stay. -/
theorem grown (paired : Paired answer c) {action : Action} {s : State}
    (step : Step c.transport action s) {number : Nat} {call : MessageIn}
    (found : (calls c.transport)[number]? = some call) : (calls s)[number]? = some call := by
  obtain ⟨inside, _⟩ := List.getElem?_eq_some_iff.mp found
  rw [step.calls paired.locked, List.getElem?_append_left inside]
  exact found

/-- A step of a stub's thread leads to the next phase and leaves the other stubs alone. -/
theorem shapes (paired : Paired answer c) {p : Party} {action : Action} {s : State} {stub : Stub}
    (step : Step c.transport action s) (own : action.party = some p)
    (follow : (c.stub p).follow c.transport p action = some stub) (q : Party) :
    (Function.update c.stub p stub q).Shape s (s.threads q) := by
  by_cases same : q = p
  · subst same
    rw [Function.update_self]
    exact (paired.shape q).step paired.locked step own follow
  · rw [Function.update_of_ne same]
    exact (paired.shape q).other step fun mine => same (Option.some.inj (mine.symm.trans own))

/-- The consumer does not enter a stub. -/
theorem outside (paired : Paired answer c) {action : Action} {s : State} {stub : Stub}
    (step : Step c.transport action s) (own : action.party = some .consumer)
    (follow : (c.stub .consumer).follow c.transport .consumer action = some stub) :
    stub = .idle := by
  rw [paired.consumer] at follow
  obtain idle | ⟨_, rfl, none⟩ := Stub.Shape.of_idle own follow
  · exact idle
  · cases step with
    | call runs _ => simp [Thread.runsCode, none] at runs

/-- A step of a stub's thread keeps the pairing, when what it does to the calls, the replies and the
stub fits together. -/
theorem assemble (paired : Paired answer c) {p : Party} {action : Action} {s : State} {stub : Stub}
    (step : Step c.transport action s) (own : action.party = some p)
    (follow : (c.stub p).follow c.transport p action = some stub)
    (free : (∀ q call number, ¬(Function.update c.stub p stub q).Owed call number) → ¬s.ended →
      s.replied = (calls s).length)
    (writing : ∀ q rest, Function.update c.stub p stub q = .building →
      (s.threads q).phase = .writing 0 rest false → s.replied = (calls s).length)
    (owed : ∀ q call number, (Function.update c.stub p stub q).Owed call number →
      number + 1 = (calls s).length ∧ (calls s)[number]? = some call ∧
        (s.replied = number ∨ s.replied = (calls s).length)) :
    Paired answer { c with
      transport := s
      stub := Function.update c.stub p stub
      exchanges := c.exchanges ++ (c.stub p).gets c.transport p action } := by
  constructor
  · exact paired.locked.step step
  · exact paired.received.step step
  · exact paired.shapes step own follow
  · by_cases same : p = .consumer
    · subst same
      show Function.update c.stub .consumer stub .consumer = .idle
      rw [Function.update_self]
      exact paired.outside step own follow
    · show Function.update c.stub p stub .consumer = .idle
      rw [Function.update_of_ne (Ne.symm same)]
      exact paired.consumer
  · exact paired.small
  · rw [step.arrived_eq (by rintro bytes rfl; simp [Action.party] at own)]
    exact paired.channel
  · intro number reply found
    obtain ⟨call, before, same⟩ := paired.replies number reply found
    exact ⟨call, paired.grown step before, same⟩
  · exact free
  · exact writing
  · exact owed
  · intro e member
    have before : (calls c.transport)[e.number]? = some e.call ∧
        e.reply = ⟨functionReturn, answer e.number e.call⟩ := by
      obtain old | new := List.mem_append.mp member
      · exact paired.exchanges e old
      · exact paired.gets step own follow e new
    exact ⟨paired.grown step before.1, before.2⟩

/-- A stub's call becomes complete. -/
theorem sends (paired : Paired answer c) {p : Party} {count : Nat} {s : State}
    {call : MessageIn} {rest : List UInt8} (step : Step c.transport (.write p count) s)
    (building : c.stub p = .building)
    (phase : (c.transport.threads p).phase = .writing 0 rest false)
    (follow : (c.stub p).follow c.transport p (.write p count) =
      some (.sent call (calls c.transport).length))
    (sends : c.transport.sends (.write p count) = [call]) (kind : call.header = functionCall) :
    Paired answer { c with
      transport := s
      stub := Function.update c.stub p (.sent call (calls c.transport).length)
      exchanges := c.exchanges ++ (c.stub p).gets c.transport p (.write p count) } := by
  have grown : calls s = calls c.transport ++ [call] := by
    rw [step.calls paired.locked, sends]
    simp [kind]
  have replied : s.replied = c.transport.replied := by
    obtain ⟨same, _⟩ | ⟨_, _, q, taking⟩ := step.replied
    · exact same
    · contradiction
  have all := paired.writing p rest building phase
  have holds : (c.transport.threads p).held ≠ [] := by
    obtain ⟨m, outgoing, _⟩ := paired.locked.writing p _ _ _ phase
    exact (paired.locked.owner p).mpr (paired.locked.owner_of_outgoing outgoing)
  refine paired.assemble step rfl follow ?_ ?_ ?_
  · intro none
    exact absurd (.inl (Function.update_self ..)) (none p call (calls c.transport).length)
  · intro q rest' building' writing
    by_cases same : q = p
    · subst same
      rw [Function.update_self] at building'
      contradiction
    · rw [step.threads_of_ne fun mine => same (Option.some.inj mine).symm] at writing
      exact absurd (paired.locked.alone phase writing) same
  · intro q call' number owed
    by_cases same : q = p
    · subst same
      rw [Function.update_self] at owed
      obtain here | here := owed
      · obtain ⟨rfl, rfl⟩ := Stub.sent.inj here
        rw [grown, replied, all]
        simp
      · contradiction
    · rw [Function.update_of_ne same] at owed
      exact absurd (paired.locked.exclusive (paired.held owed) holds) same

/-- Every other step of a stub's thread. -/
theorem stays (paired : Paired answer c) {p : Party} {action : Action} {s : State} {stub : Stub}
    (step : Step c.transport action s) (own : action.party = some p)
    (follow : (c.stub p).follow c.transport p action = some stub)
    (sends : ((c.transport.sends action).filter fun m => m.header = functionCall) = [])
    (before : ∀ call number, stub.Owed call number → (c.stub p).Owed call number) :
    Paired answer { c with
      transport := s
      stub := Function.update c.stub p stub
      exchanges := c.exchanges ++ (c.stub p).gets c.transport p action } := by
  have same : calls s = calls c.transport := by
    rw [step.calls paired.locked, sends, List.append_nil]
  have owed_before : ∀ q call number, (Function.update c.stub p stub q).Owed call number →
      (c.stub q).Owed call number := by
    intro q call number owed
    by_cases mine : q = p
    · subst mine
      rw [Function.update_self] at owed
      exact before call number owed
    · rw [Function.update_of_ne mine] at owed
      exact owed
  have count : s.replied = c.transport.replied ∨
      s.replied = c.transport.replied + 1 ∧ c.transport.replied < (calls c.transport).length ∧
        action = .take p := by
    obtain ⟨same, _⟩ | ⟨more, next, q, rfl⟩ := step.replied
    · exact .inl same
    · obtain rfl := Option.some.inj own
      exact .inr ⟨more, paired.replied_lt next, rfl⟩
  refine paired.assemble step own follow ?_ ?_ ?_
  · intro none going
    rw [same]
    by_cases someone : ∃ call number, (c.stub p).Owed call number
    · -- the stub has got its reply
      obtain ⟨call, number, owed⟩ := someone
      obtain still | ⟨rfl, next⟩ | ended := Stub.Shape.owed_until step own follow owed
      · have now := none p call number
        rw [Function.update_self] at now
        exact absurd still now
      · obtain ⟨last, _, count'⟩ := paired.owed p call number owed
        have less := paired.replied_lt next
        obtain ⟨_, quiet⟩ | ⟨more, _⟩ := step.replied
        · simp [quiet p rfl] at next
        · omega
      · exact absurd ended going
    · have nobody : ∀ q call number, ¬(c.stub q).Owed call number := by
        intro q call number owed
        by_cases mine : q = p
        · subst mine
          exact someone ⟨call, number, owed⟩
        · have now := none q call number
          rw [Function.update_of_ne mine] at now
          exact now owed
      have all := paired.free nobody fun ended => going (step.ended ended)
      obtain same | ⟨_, less, _⟩ := count
      · rw [same, all]
      · omega
  · intro q rest building writing
    rw [same]
    have unchanged : (∃ rest, (c.transport.threads q).phase = .writing 0 rest false) →
        c.stub q = .building → s.replied = (calls c.transport).length := by
      rintro ⟨rest, writing⟩ building
      have all := paired.writing q rest building writing
      obtain same | ⟨_, less, _⟩ := count
      · rw [same, all]
      · omega
    by_cases mine : q = p
    · subst mine
      rw [Function.update_self] at building
      obtain ⟨here, other, opened | phase⟩ :=
        Stub.Shape.writing_of_follow step own follow building writing
      · have nobody : ∀ p call number, ¬(c.stub p).Owed call number := by
          intro p call number owed
          have holds : (c.transport.threads q).held ≠ [] := by
            have shape := paired.shape q
            rw [here] at shape
            obtain ⟨_, m, base, calling, _⟩ := shape
            simp [calling.held]
          have same := paired.locked.exclusive (paired.held owed) holds
          subst same
          rw [here] at owed
          obtain owed | owed := owed <;> contradiction
        have all := paired.free nobody fun ended => ended.2 opened
        obtain same | ⟨_, _, taking⟩ := count
        · rw [same, all]
        · exact absurd taking (other q)
      · exact unchanged phase here
    · rw [Function.update_of_ne mine] at building
      rw [step.threads_of_ne fun here => mine (Option.some.inj (here.symm.trans own))] at writing
      exact unchanged ⟨rest, writing⟩ building
  · intro q call number owed
    obtain ⟨last, found, count'⟩ := paired.owed q call number (owed_before q call number owed)
    rw [same]
    refine ⟨last, found, ?_⟩
    obtain same | ⟨more, less, _⟩ := count
    · rw [same]
      exact count'
    · omega

/-- Every step of the client or its peer keeps the pairing, unless a stub throws before its message
is flushed. -/
theorem step {action : ClientAction} (paired : Paired answer c) (serializes : Serializes c action)
    (taken : (client answer).step c action = some c') : Paired answer c' := by
  cases action with
  | step action =>
    have own : ∀ bytes, action ≠ .arrive bytes := by
      rintro bytes rfl
      simp [client] at taken
    have moved : ((transport.step c.transport action).bind fun s =>
        action.party.elim (some { c with transport := s }) fun p =>
          ((c.stub p).follow c.transport p action).map fun stub =>
            { c with
              transport := s
              stub := Function.update c.stub p stub
              exchanges := c.exchanges ++ (c.stub p).gets c.transport p action }) = some c' := by
      rw [← taken]
      cases action with
      | arrive bytes => exact absurd rfl (own bytes)
      | _ => rfl
    obtain ⟨s, stepped, moved⟩ := Option.bind_eq_some_iff.mp moved
    have step := step_of_transport stepped
    cases party : action.party with
    | none =>
      simp only [party, Option.elim_none, Option.some.injEq] at moved
      subst moved
      exact paired.quiet step party own
    | some p =>
      simp only [party, Option.elim_some] at moved
      obtain ⟨stub, follow, rfl⟩ := Option.map_eq_some_iff.mp moved
      obtain ⟨call, rest, building, phase, rfl, sends, kind, count, rfl⟩ | ⟨sends, before⟩ :=
        (paired.shape p).sends_of_follow paired.locked step party follow
      · exact paired.sends step building phase follow sends kind
      · exact paired.stays step party follow sends before
  | raise p => exact absurd rfl (serializes p)
  | reply =>
    simp only [client] at taken
    split at taken
    · rename_i call found
      simp only [Option.ite_none_right_eq_some, Option.some.injEq] at taken
      obtain ⟨small, rfl⟩ := taken
      refine { paired with small := ?_, channel := ?_, replies := ?_ }
      · intro m member
        obtain old | new := List.mem_append.mp member
        · exact paired.small m old
        · obtain rfl := List.mem_singleton.mp new
          exact small
      · rw [MessageIn.stream_append]
        exact paired.channel.trans (List.prefix_append _ _)
      · intro number reply sent
        have grown : ∀ m : MessageIn, m.header = functionReturn →
            returns (c.peer ++ [m]) = returns c.peer ++ [m] := by
          intro m kind
          simp [returns, kind]
        rw [grown _ rfl] at sent
        by_cases old : number < (returns c.peer).length
        · rw [List.getElem?_append_left old] at sent
          exact paired.replies number reply sent
        · rw [List.getElem?_append_right (by omega)] at sent
          obtain ⟨inside, here⟩ := List.getElem?_eq_some_iff.mp sent
          have last : number = (returns c.peer).length := by
            rw [List.length_singleton] at inside
            omega
          rw [List.getElem_singleton] at here
          rw [last, ← here]
          exact ⟨call, found, rfl⟩
    · contradiction
  | send m =>
    simp only [client, Option.ite_none_right_eq_some, Option.some.injEq] at taken
    obtain ⟨⟨kind, small⟩, rfl⟩ := taken
    refine { paired with small := ?_, channel := ?_, replies := ?_ }
    · intro x member
      obtain old | new := List.mem_append.mp member
      · exact paired.small x old
      · obtain rfl := List.mem_singleton.mp new
        exact small
    · rw [MessageIn.stream_append]
      exact paired.channel.trans (List.prefix_append _ _)
    · intro number reply sent
      refine paired.replies number reply ?_
      rw [← sent]
      simp [returns, kind]
  | transfer count =>
    obtain ⟨s, stepped, rfl⟩ := Option.map_eq_some_iff.mp taken
    cases step_of_transport stepped with
    | arrive bytes =>
      have moved := step_of_transport stepped
      refine { paired with
        locked := paired.locked.step moved, received := paired.received.step moved, channel := ?_ }
      obtain ⟨coming, whole⟩ := paired.channel
      have next : (MessageIn.stream c.peer).drop c.transport.inbox.arrived.length = coming := by
        rw [← whole, List.drop_left]
      show c.transport.inbox.arrived ++
        ((MessageIn.stream c.peer).drop c.transport.inbox.arrived.length).take count <+: _
      rw [next, ← whole]
      exact (List.prefix_append_right_inj _).mpr (List.take_prefix count coming)

end Paired

/-- At first nothing has been sent. -/
theorem paired_init (answer : Nat → MessageIn → List UInt8) :
    Paired answer (client answer).init := by
  constructor
  · exact locked_init
  · exact received_init
  · exact fun p => ⟨⟨[], rfl, by simp⟩, by simp [client, transport]⟩
  · rfl
  · intro m member
    simp [client] at member
  · exact List.prefix_rfl
  · intro number reply found
    simp [client, returns] at found
  · exact fun _ _ => rfl
  · intro p rest building
    contradiction
  · intro p call number owed
    obtain owed | owed := owed <;> contradiction
  · intro e member
    simp [client] at member

/-- In every run in which no stub throws between starting its message and flushing it: the reply a
stub gets is the peer's answer to that stub's call, and a reply that a stub is owed is taken from
the queue by no other thread, in particular not by the consumer. -/
theorem pairing {answer : Nat → MessageIn → List UInt8} {c : Client}
    (reachable : (client answer).Reachable Serializes c) :
    (∀ e ∈ c.exchanges, (calls c.transport)[e.number]? = some e.call ∧
      e.reply = ⟨functionReturn, answer e.number e.call⟩) ∧
    ∀ p call number, (c.stub p).Owed call number → p ≠ .consumer ∧
      ∀ q s, transport.step c.transport (.take q) = some s → q = p := by
  have paired : Paired answer c := by
    refine reachable.invariant (Paired answer) (paired_init answer) ?_
    exact fun c action c' paired serializes taken => paired.step serializes taken
  refine ⟨paired.exchanges, fun p call number owed => ⟨?_, ?_⟩⟩
  · rintro rfl
    rw [paired.consumer] at owed
    obtain owed | owed := owed <;> contradiction
  · intro q s taken
    cases step_of_transport taken with
    | take _ _ _ delivered =>
      obtain ⟨_, _, has, _⟩ := State.deliver_eq delivered
      exact paired.locked.exclusive has (paired.held owed)

/-- A peer that sends back the number of the call and its payload. -/
def echo (number : Nat) (call : MessageIn) : List UInt8 := UInt8.ofNat number :: call.payload

/-- A thread gets the message mutex for a call of the transport. -/
def enter (request : Request) : List ClientAction :=
  [.step (.call (.user 0) request), .step (.announce (.user 0)), .step (.acquire (.user 0))]

/-- A stub starts its message and writes an argument of one byte. -/
def startCall (argument : UInt8) : List ClientAction :=
  enter (.startMessage functionCall) ++ [ClientAction.step (.append (.user 0) 0 [argument])]

/-- A stub with an argument of one byte sends its call and begins to wait. -/
def sendCall (argument : UInt8) : List ClientAction :=
  startCall argument ++
    [ClientAction.step (.flush (.user 0) 0), .step (.write (.user 0) 9), .step (.wrote (.user 0))] ++
    enter (.awaitMessage functionReturn)

/-- A reply with a payload of two bytes arrives, and the stub takes it. -/
def takeReply : List ClientAction :=
  [.transfer 10, .step .poll, .step (.receive 8), .step (.receive 2), .step .enqueue,
    .step (.take (.user 0)), .step (.release (.user 0) 0), .step (.destroy (.user 0) 0)]

/-- Two stubs, one after the other. -/
def twoCalls : List ClientAction :=
  [ClientAction.step .start] ++ sendCall 5 ++ [ClientAction.reply] ++ takeReply ++
    sendCall 6 ++ [ClientAction.reply] ++ takeReply

/-- Both get the answers to their own calls. -/
theorem pairing_twoCalls : ∃ c, (client echo).run (client echo).init twoCalls = some c ∧
    c.exchanges = [⟨.user 0, 0, ⟨functionCall, [5]⟩, ⟨functionReturn, [0, 5]⟩⟩,
      ⟨.user 0, 1, ⟨functionCall, [6]⟩, ⟨functionReturn, [1, 6]⟩⟩] ∧
    ∀ e ∈ c.exchanges, (calls c.transport)[e.number]? = some e.call ∧
      e.reply = ⟨functionReturn, echo e.number e.call⟩ := by
  have ran : ((client echo).run (client echo).init twoCalls).map Client.exchanges =
      some [⟨.user 0, 0, ⟨functionCall, [5]⟩, ⟨functionReturn, [0, 5]⟩⟩,
        ⟨.user 0, 1, ⟨functionCall, [6]⟩, ⟨functionReturn, [1, 6]⟩⟩] := by decide
  obtain ⟨c, ran, exchanges⟩ := Option.map_eq_some_iff.mp ran
  have serializes : (client echo).Along Serializes (client echo).init twoCalls := by
    refine (client echo).along_of_forall (fun s label member p raises => ?_) _
    rw [raises] at member
    simp [twoCalls, sendCall, startCall, enter, takeReply] at member
  exact ⟨c, ran, exchanges, (pairing (.run .init serializes ran)).1⟩

/-- The first stub throws while it serializes; the destructor of its message sends what there is of
the call, and the peer answers it. -/
def brokenCall : List ClientAction :=
  [ClientAction.step .start] ++ startCall 5 ++
    [ClientAction.raise (.user 0), .step (.destroy (.user 0) 0), .step (.write (.user 0) 9),
      .step (.wrote (.user 0)), .reply] ++
    sendCall 6 ++ takeReply

/-- The second stub gets the answer to the first one's call. -/
theorem brokenCall_mispairs :
    ¬∀ c, (client echo).Reachable (fun _ _ => True) c → ∀ e ∈ c.exchanges,
      e.reply = ⟨functionReturn, echo e.number e.call⟩ := by
  intro pairs
  have ran : ((client echo).run (client echo).init brokenCall).map Client.exchanges =
      some [⟨.user 0, 1, ⟨functionCall, [6]⟩, ⟨functionReturn, [0, 5]⟩⟩] := by decide +kernel
  obtain ⟨c, ran, exchanges⟩ := Option.map_eq_some_iff.mp ran
  have same := pairs c (System.reachable_of_run ran)
    ⟨.user 0, 1, ⟨functionCall, [6]⟩, ⟨functionReturn, [0, 5]⟩⟩ (by simp [exchanges])
  contradiction

end XrTransport.Transport
