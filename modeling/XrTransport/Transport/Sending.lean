import XrTransport.Transport.Mutex

/-!
# Sending

The bytes the stream has taken are the frames of the messages flushed so far and a part of one more:
the frame a thread is writing, which nobody else can interrupt, since writing needs the message
mutex. `Sends` is what the senders keep to: they write into a message before they flush it, and less
than `2 ^ 32` bytes.
-/
namespace XrTransport.Transport

/-- Messages are filled before they are flushed, with payloads the size field has room for. -/
def Sends (s : State) : Action → Prop
  | .append p index _ => ∀ m ∈ (s.threads p).outgoing index, m.buffer ≠ []
  | .flush p index | .destroy p index =>
    ∀ m ∈ (s.threads p).outgoing index, m.message.Small
  | _ => True

/-- A payload is measured. -/
instance decidableSmall (m : MessageIn) : Decidable m.Small :=
  inferInstanceAs (Decidable (m.payload.length < 2 ^ 32))

/-- The rules for senders look at one message. -/
instance decidableSends (s : State) : ∀ action, Decidable (Sends s action)
  | .append p index _ =>
    inferInstanceAs (Decidable (∀ m ∈ (s.threads p).outgoing index, m.buffer ≠ []))
  | .flush p index | .destroy p index =>
    inferInstanceAs (Decidable (∀ m ∈ (s.threads p).outgoing index, m.message.Small))
  | .start | .call _ _ | .announce _ | .acquire _ | .write _ _ | .wrote _ | .writeFailed _
  | .release _ _ | .take _ | .interrupt _ | .finish _ | .proceed _ | .writeClose _ _ | .close
  | .lock | .check | .rest | .arrive _ | .poll | .receive _ | .enqueue | .receiveFailed =>
    inferInstanceAs (Decidable True)

/-- A message that has room for its header is framed as such. -/
theorem MessageOut.framed_eq {m : MessageOut} (sized : headerSize ≤ m.buffer.length) :
    m.framed = m.message.frame := by
  have length : m.message.payload.length = m.buffer.length - headerSize := List.length_drop
  have header : headerBytes m.header (m.buffer.length + 2 ^ 32 - headerSize) =
      headerBytes m.header m.message.payload.length := by
    have sum : m.buffer.length + 2 ^ 32 - headerSize =
        (m.buffer.length - headerSize) + 256 ^ 4 := by omega
    rw [headerBytes, headerBytes, sum, toBytes_add_pow, length]
  rw [MessageOut.framed, header]
  refine List.take_of_length_le ?_
  rw [List.length_append, length_headerBytes, List.length_drop]
  omega

/-- What the stream has got from this end. -/
structure Sent (s : State) : Prop where
  /-- A message is flushed or has room for its header. -/
  sized : ∀ p m, .out m ∈ (s.threads p).held → m.buffer = [] ∨ headerSize ≤ m.buffer.length
  /-- The size field has room for every payload flushed. -/
  small : ∀ m ∈ s.link.flushed, m.Small
  /-- The stream has got the flushed messages and a part of one more. -/
  written : s.link.written = MessageIn.stream s.link.flushed ++ s.link.unfinished
  /-- The part is not a whole message. -/
  part : s.link.unfinished = [] ∨ ∃ m : MessageIn, m.Small ∧ s.link.unfinished <+: m.frame ∧
    s.link.unfinished.length < m.frame.length
  /-- Who is writing goes on with that message. -/
  busy : ∀ p index rest implicit, (s.threads p).phase = .writing index rest implicit →
    ∃ m, (s.threads p).outgoing index = some m ∧ m.message.Small ∧
      (s.link.broken = false →
        if rest = [] then s.link.unfinished = []
        else s.link.unfinished ++ rest = m.message.frame)
  /-- If nobody is writing, no message is unfinished. -/
  calm : s.link.broken = false → s.link.unfinished ≠ [] →
    ∃ p index rest implicit, (s.threads p).phase = .writing index rest implicit

namespace Sent

variable {s s' : State}

/-- A step that does not touch threads and the way out. -/
theorem congr (sent : Sent s) (threads : s'.threads = s.threads) (link : s'.link = s.link) :
    Sent s' := by
  refine ⟨?_, ?_, ?_, ?_, ?_, ?_⟩
  · rw [threads]
    exact sent.sized
  · rw [link]
    exact sent.small
  · rw [link]
    exact sent.written
  · rw [link]
    exact sent.part
  · rw [threads, link]
    exact sent.busy
  · rw [threads, link]
    exact sent.calm

/-- A thread that writes nothing before and after changes its locks or its phase. -/
theorem update (sent : Sent s) {p : Party}
    (others : ∀ q, q ≠ p → s'.threads q = s.threads q) (link : s'.link = s.link)
    (sized : ∀ m, .out m ∈ (s'.threads p).held → m.buffer = [] ∨ headerSize ≤ m.buffer.length)
    (before : ∀ index rest implicit, (s.threads p).phase ≠ .writing index rest implicit)
    (after : ∀ index rest implicit, (s'.threads p).phase ≠ .writing index rest implicit) :
    Sent s' := by
  refine ⟨?_, ?_, ?_, ?_, ?_, ?_⟩
  · intro q m member
    by_cases same : q = p
    · subst same
      exact sized m member
    · rw [others q same] at member
      exact sent.sized q m member
  · rw [link]
    exact sent.small
  · rw [link]
    exact sent.written
  · rw [link]
    exact sent.part
  · intro q index rest implicit writing
    by_cases same : q = p
    · subst same
      exact absurd writing (after index rest implicit)
    · rw [others q same] at writing ⊢
      rw [link]
      exact sent.busy q index rest implicit writing
  · rw [link]
    intro working unfinished
    obtain ⟨q, index, rest, implicit, writing⟩ := sent.calm working unfinished
    have other : q ≠ p := by
      rintro rfl
      exact before index rest implicit writing
    exact ⟨q, index, rest, implicit, by rw [others q other, writing]⟩

/-- A thread that writes nothing changes its locks. -/
theorem setHeld (sent : Sent s) {p : Party} (running : (s.threads p).phase = .running)
    {held : List Hold}
    (sized : ∀ m, .out m ∈ held → m.buffer = [] ∨ headerSize ≤ m.buffer.length) :
    Sent (s.setHeld p held) := by
  refine sent.update (fun q => s.setHeld_of_ne p held) rfl ?_ ?_ ?_
  · rw [State.setHeld_self]
    exact sized
  · simp [running]
  · simp [State.setHeld_self, running]

/-- A thread that writes nothing changes its locks to some of those it has. -/
theorem dropHeld (sent : Sent s) {p : Party} (running : (s.threads p).phase = .running)
    {held : List Hold} (fewer : ∀ m, .out m ∈ held → .out m ∈ (s.threads p).held) :
    Sent (s.setHeld p held) :=
  sent.setHeld running fun m member => sent.sized p m (fewer m member)

/-- A thread changes from one phase without writing to another. -/
theorem setPhase (sent : Sent s) {p : Party} {phase : Phase}
    (before : ∀ index rest implicit, (s.threads p).phase ≠ .writing index rest implicit)
    (after : ∀ index rest implicit, phase ≠ .writing index rest implicit) :
    Sent (s.setPhase p phase) := by
  refine sent.update (fun q => s.setPhase_of_ne p phase) rfl ?_ before ?_
  · rw [State.setPhase_self]
    exact sent.sized p
  · rw [State.setPhase_self]
    exact after

/-- A thread begins to write one of its messages. Nobody else is writing, since it owns the mutex.
-/
theorem begin (sent : Sent s) (locked : Locked s) {p : Party} {index : Nat} {m : MessageOut}
    (implicit : Bool) (running : (s.threads p).phase = .running)
    (own : (s.threads p).outgoing index = some m) (unsent : m.buffer ≠ [])
    (small : m.message.Small) : Sent (s.setPhase p (.writing index m.framed implicit)) := by
  have member : .out m ∈ (s.threads p).held :=
    List.mem_of_getElem? (Thread.held_of_outgoing own)
  have sized : headerSize ≤ m.buffer.length := (sent.sized p m member).resolve_left unsent
  have alone : ∀ q index rest implicit, (s.threads q).phase ≠ .writing index rest implicit := by
    intro q index' rest implicit' writing
    obtain ⟨m', own', _⟩ := locked.writing q _ _ _ writing
    have both := (locked.owner_of_outgoing own).symm.trans (locked.owner_of_outgoing own')
    obtain rfl := Option.some.inj both
    rw [running] at writing
    contradiction
  have fresh : s.link.broken = false → s.link.unfinished = [] := by
    intro working
    by_contra unfinished
    obtain ⟨q, index', rest, implicit', writing⟩ := sent.calm working unfinished
    exact alone q _ _ _ writing
  have framed := MessageOut.framed_eq sized
  have more : m.framed ≠ [] := by
    intro none
    have length := congrArg List.length (framed.symm.trans none)
    rw [MessageIn.length_frame, headerSize] at length
    simp at length
  refine ⟨?_, sent.small, sent.written, sent.part, ?_, ?_⟩
  · intro q x member
    by_cases same : q = p
    · subst same
      rw [State.setPhase_self] at member
      exact sent.sized q x member
    · rw [State.setPhase_of_ne s p _ same] at member
      exact sent.sized q x member
  · intro q index' rest implicit' writing
    by_cases same : q = p
    · subst same
      rw [State.setPhase_self] at writing ⊢
      obtain ⟨rfl, rfl, _⟩ := Phase.writing.inj writing
      refine ⟨m, own, small, fun working => ?_⟩
      have nothing : (s.setPhase q (.writing index m.framed implicit)).link.unfinished = [] :=
        fresh working
      rw [if_neg more, nothing, framed, List.nil_append]
    · rw [State.setPhase_of_ne s p _ same] at writing
      exact absurd writing (alone q _ _ _)
  · intro working unfinished
    exact absurd (fresh working) unfinished

/-- The stream takes bytes of the message a thread is writing. -/
theorem write (sent : Sent s) {p : Party} {index count : Nat} {rest : List UInt8}
    {implicit : Bool} (locked : Locked s)
    (writing : (s.threads p).phase = .writing index rest implicit) (some : 0 < count)
    (enough : count ≤ rest.length) (working : s.link.broken = false) :
    Sent (s.write p index rest implicit count) := by
  obtain ⟨m, own, small, onward⟩ := sent.busy p index rest implicit writing
  have more : rest ≠ [] := by
    rintro rfl
    simp at enough
    omega
  have frame : s.link.unfinished ++ rest = m.message.frame := by
    simpa [more] using onward working
  have sized : ∀ q x, .out x ∈
      ((s.setPhase p (.writing index (rest.drop count) implicit)).threads q).held →
      x.buffer = [] ∨ headerSize ≤ x.buffer.length := by
    intro q x member
    by_cases same : q = p
    · subst same
      rw [State.setPhase_self] at member
      exact sent.sized q x member
    · rw [State.setPhase_of_ne s p _ same] at member
      exact sent.sized q x member
  have busy : ∀ q index' rest' implicit',
      ((s.setPhase p (.writing index (rest.drop count) implicit)).threads q).phase =
        .writing index' rest' implicit' →
      rest' = rest.drop count ∧ ∃ m',
        ((s.setPhase p (.writing index (rest.drop count) implicit)).threads q).outgoing index' =
          Option.some m' ∧ m' = m := by
    intro q index' rest' implicit' writing'
    by_cases same : q = p
    · subst same
      rw [State.setPhase_self] at writing' ⊢
      obtain ⟨rfl, rfl, _⟩ := Phase.writing.inj writing'
      exact ⟨rfl, m, own, rfl⟩
    · rw [State.setPhase_of_ne s p _ same] at writing'
      exact absurd (locked.alone writing writing') same
  rw [State.write_own own]
  by_cases last : count = rest.length
  · have all : rest.take count = rest := List.take_of_length_le (by omega)
    have none : rest.drop count = [] := List.drop_of_length_le (by omega)
    rw [if_pos last, all]
    refine ⟨sized, ?_, ?_, .inl rfl, ?_, ?_⟩
    · intro x member
      obtain old | new := List.mem_append.mp member
      · exact sent.small x old
      · obtain rfl := List.mem_singleton.mp new
        exact small
    · have frames : MessageIn.stream [m.message] = m.message.frame := List.append_nil _
      simp only [sent.written, List.append_nil, MessageIn.stream_append, List.append_assoc]
      rw [frame, frames]
    · intro q index' rest' implicit' writing'
      obtain ⟨rfl, m', own', rfl⟩ := busy q index' rest' implicit' writing'
      exact ⟨m', own', small, fun _ => by rw [if_pos none]⟩
    · intro _ unfinished
      exact absurd rfl unfinished
  · have left : rest.drop count ≠ [] := by
      intro none
      have length := congrArg List.length none
      rw [List.length_drop, List.length_nil] at length
      omega
    have onward : s.link.unfinished ++ rest.take count ++ rest.drop count = m.message.frame := by
      rw [List.append_assoc, List.take_append_drop, frame]
    rw [if_neg last]
    refine ⟨sized, sent.small, ?_, ?_, ?_, ?_⟩
    · simp only [sent.written, List.append_assoc]
    · refine .inr ⟨m.message, small, ⟨_, onward⟩, ?_⟩
      have positive := List.length_pos_of_ne_nil left
      have total : (s.link.unfinished ++ rest.take count ++ rest.drop count).length =
          (s.link.unfinished ++ rest.take count).length + (rest.drop count).length :=
        List.length_append
      rw [← onward, total]
      exact Nat.lt_add_of_pos_right positive
    · intro q index' rest' implicit' writing'
      obtain ⟨rfl, m', own', rfl⟩ := busy q index' rest' implicit' writing'
      refine ⟨m', own', small, fun _ => ?_⟩
      rw [if_neg left]
      exact onward
    · intro _ _
      exact ⟨p, index, rest.drop count, implicit, by simp [State.setPhase]⟩

/-- At the end of a message nothing is unfinished. -/
theorem done (sent : Sent s) {p : Party} {index : Nat} {implicit : Bool}
    (writing : (s.threads p).phase = .writing index [] implicit) :
    s.link.broken = false → s.link.unfinished = [] := by
  obtain ⟨m, _, _, onward⟩ := sent.busy p index [] implicit writing
  simpa using onward

/-- A thread stops writing, at the end of its message or because the stream fails. -/
theorem stop (sent : Sent s) (locked : Locked s) {p : Party} {index : Nat} {rest : List UInt8}
    {implicit : Bool} (writing : (s.threads p).phase = .writing index rest implicit)
    (others : ∀ q, q ≠ p → s'.threads q = s.threads q)
    (running : (s'.threads p).phase = .running)
    (sized : ∀ m, .out m ∈ (s'.threads p).held → m.buffer = [] ∨ headerSize ≤ m.buffer.length)
    (link : ∃ broken, s'.link = { s.link with broken := broken } ∧
      (broken = false → s.link.unfinished = [])) :
    Sent s' := by
  obtain ⟨broken, link, done⟩ := link
  refine ⟨?_, ?_, ?_, ?_, ?_, ?_⟩
  · intro q m member
    by_cases same : q = p
    · subst same
      exact sized m member
    · rw [others q same] at member
      exact sent.sized q m member
  · rw [link]
    exact sent.small
  · rw [link]
    exact sent.written
  · rw [link]
    exact sent.part
  · intro q index' rest' implicit' writing'
    by_cases same : q = p
    · subst same
      rw [running] at writing'
      contradiction
    · rw [others q same] at writing'
      exact absurd (locked.alone writing writing') same
  · rw [link]
    intro working unfinished
    exact absurd (done working) unfinished

/-- Senders that keep to the rules keep the stream in order. -/
theorem step {action : Action} (sent : Sent s) (locked : Locked s) (sends : Sends s action)
    (step : Step s action s') : Sent s' := by
  cases step with
  | call runs _ =>
    exact sent.setPhase (by simp [Thread.runsCode_running runs]) (by simp)
  | @announce p request called =>
    have counted : Sent (s.setPhase p (.waiting request)) :=
      sent.setPhase (by simp [called]) (by simp)
    exact counted.congr rfl rfl
  | @acquire p request waiting _ =>
    have ready : Sent { s.setPhase p .running with numWaiting := s.numWaiting - 1 } :=
      (sent.setPhase (by simp [waiting]) (by simp)).congr rfl rfl
    obtain ⟨hold, same, made⟩ | ⟨handlers, same⟩ := State.grant_eq _ p request
    · rw [same]
      refine ready.setHeld (by simp [State.setPhase]) ?_
      intro m member
      obtain new | old := List.mem_cons.mp member
      · obtain ⟨header, _, rfl⟩ := made m new.symm
        exact .inr (by simp [MessageOut.opened])
      · exact ready.sized p m old
    · rw [same]
      exact ready.congr rfl rfl
  | @append p index m bytes runs own =>
    have member : .out m ∈ (s.threads p).held :=
      List.mem_of_getElem? (Thread.held_of_outgoing own)
    have room := (sent.sized p m member).resolve_left (sends m own)
    refine sent.setHeld (Thread.runsCode_running runs) ?_
    intro x changed
    obtain old | new := List.mem_or_eq_of_mem_set changed
    · exact sent.sized p x old
    · obtain rfl := Hold.out.inj new
      refine .inr ?_
      rw [List.length_append]
      omega
  | flushNothing _ _ => exact sent
  | flush code own unsent _ =>
    exact sent.begin locked false (Thread.code_running code) own unsent (sends _ own)
  | flushRefused running _ _ _ => exact sent.dropHeld running fun m => mem_unwind
  | destroy running _ _ => exact sent.dropHeld running fun m => List.mem_of_mem_eraseIdx
  | destroyUnsent code own unsent _ =>
    exact sent.begin locked true (Thread.code_running code) own unsent (sends _ own)
  | write writing some enough working => exact sent.write locked writing some enough working
  | @wrote p index m writing own =>
    refine sent.stop locked writing ?_ ?_ ?_ ⟨s.link.broken, rfl, sent.done writing⟩
    · exact fun q other => (State.setHeld_of_ne _ p _ other).trans (s.setPhase_of_ne p _ other)
    · simp [State.setHeld, State.setPhase]
    · rw [State.setHeld_self]
      intro x member
      obtain old | new := List.mem_or_eq_of_mem_set member
      · exact sent.sized p x old
      · obtain rfl := Hold.out.inj new
        exact .inl rfl
  | @wroteImplicitly p index writing =>
    refine sent.stop locked writing ?_ ?_ ?_ ⟨s.link.broken, rfl, sent.done writing⟩
    · exact fun q other => (State.setHeld_of_ne _ p _ other).trans (s.setPhase_of_ne p _ other)
    · simp [State.setHeld, State.setPhase]
    · rw [State.setHeld_self]
      exact fun x member => sent.sized p x (List.mem_of_mem_eraseIdx member)
  | @writeFailed p index rest writing _ =>
    refine sent.stop locked writing ?_ ?_ ?_ ⟨true, rfl, by simp⟩
    · exact fun q other => (State.setHeld_of_ne _ p _ other).trans (s.setPhase_of_ne p _ other)
    · simp [State.setHeld, State.setPhase]
    · intro x member
      refine sent.sized p x (mem_unwind ?_)
      simpa [State.setHeld] using member
  | @writeFailedImplicitly p index rest writing _ =>
    refine sent.stop locked writing ?_ ?_ ?_ ⟨true, rfl, by simp⟩
    · exact fun q other => s.setPhase_of_ne p _ other
    · simp [State.setPhase]
    · intro x member
      refine sent.sized p x ?_
      simpa [State.setPhase] using member
  | release runs _ _ =>
    exact sent.dropHeld (Thread.runsCode_running runs) fun m => List.mem_of_mem_eraseIdx
  | @take p m queue result _ running _ delivered =>
    obtain ⟨held', same, _, fewer⟩ := State.deliver_eq delivered
    rw [same]
    exact (sent.dropHeld running fewer).congr rfl rfl
  | @interrupt p hold rest running _ held _ =>
    exact sent.dropHeld running fun m member => by simp [held, member]
  | @finish p hold rest running held _ =>
    exact sent.dropHeld running fun m member => by simp [held, member]
  | @proceed p _ running goes =>
    obtain ⟨held', status, same, _, mem, _⟩ := State.proceed_eq goes
    have after : Sent (s.setHeld p held') := by
      refine sent.setHeld running fun m member => ?_
      obtain old | ⟨_, rfl⟩ := mem m member
      · exact sent.sized p m old
      · exact .inr (by simp [MessageOut.opened])
    rw [same]
    exact after.congr rfl rfl
  | lock _ running _ => exact sent.setHeld running (by simp)
  | yield running _ _ => exact sent.setHeld running (by simp)
  | check running _ _ => exact sent.setHeld running (by simp)
  | rest running _ => exact sent.setHeld running (by simp)
  | _ => exact sent.congr rfl rfl

end Sent

/-- At first nothing has been written. -/
theorem sent_init : Sent transport.init := by
  refine ⟨?_, ?_, rfl, .inl rfl, ?_, ?_⟩
  · intro p m member
    simp [transport] at member
  · intro m member
    simp [transport] at member
  · intro p index rest implicit writing
    simp [transport] at writing
  · intro _ unfinished
    exact absurd rfl unfinished

end XrTransport.Transport
