import XrTransport.Transport.Mutex

/-!
# Releasing outgoing messages

The destructor of an outgoing message flushes what is left in it, and flushing throws once the
status is not open, or when the stream fails. An exception that leaves a destructor ends the
process. `Careful` says what a step must not do so that no destructor ever throws.
-/
namespace XrTransport.Transport

namespace Thread

/-- A message has bytes that nobody is writing. -/
def Unsent (t : Thread) (m : MessageOut) : Prop :=
  m.buffer ≠ [] ∧ ∃ index, t.held[index]? = some (.out m) ∧
    ∀ rest implicit, t.phase ≠ .writing index rest implicit

/-- A call of `start_message` has found the status open and has not made its message yet. -/
def Starting (t : Thread) : Prop :=
  ∃ header, t.phase = .called (.startMessage header) ∨ t.phase = .waiting (.startMessage header)

/-- The thread has a message to send, or is about to have one. -/
def Pending (t : Thread) : Prop := (∃ m, t.Unsent m) ∨ t.Starting

/-- While the thread writes nothing, every message with bytes is unsent. -/
theorem Unsent.of_mem {t : Thread} {m : MessageOut} (held : .out m ∈ t.held)
    (unsent : m.buffer ≠ [])
    (quiet : ∀ index rest implicit, t.phase ≠ .writing index rest implicit) : t.Unsent m := by
  obtain ⟨index, _, found⟩ := List.getElem_of_mem held
  exact ⟨unsent, index, List.getElem?_eq_some_iff.mpr ⟨_, found⟩, quiet index⟩

/-- An unsent message is among the locks. -/
theorem Unsent.mem {t : Thread} {m : MessageOut} (pending : t.Unsent m) : .out m ∈ t.held := by
  obtain ⟨_, index, found, _⟩ := pending
  exact List.mem_of_getElem? found

end Thread

/-- Some thread has a message to send, or is about to have one. -/
def State.Pending (s : State) : Prop := ∃ p, (s.threads p).Pending

/-- A step after which the status is not open. -/
def closes (s : State) : Action → Prop
  | .close | .writeClose _ _ | .receiveFailed => True
  | .proceed p => ∃ rest, (s.threads p).held = .shutdown .sending :: rest
  | _ => False

/-- The status leaves open only while no message is pending, nothing is written to a message while
it is not open, and the stream does not fail under a destructor, nor under `flush` once the status
has left open. -/
def Careful (s : State) (action : Action) : Prop :=
  match action with
  | .append _ _ _ => s.status = .opened
  | .writeFailed p =>
    s.status = .opened ∧ ∀ index rest, (s.threads p).phase ≠ .writing index rest true
  | action => closes s action → s.status = .opened → ¬s.Pending

/-- Nothing has escaped, and once the status is not open nothing is pending. -/
structure Released (s : State) : Prop where
  /-- No destructor has thrown. -/
  quiet : s.escaped = false
  /-- Nothing waits to be sent in vain. -/
  settled : s.status ≠ .opened → ¬s.Pending

/-- When one thread changes, a pending message is one of before or one of that thread. -/
theorem State.Pending.before {s s' : State} (pending : s'.Pending) (p : Party)
    (others : ∀ q, q ≠ p → s'.threads q = s.threads q)
    (here : (s'.threads p).Pending → (s.threads p).Pending) : s.Pending := by
  obtain ⟨q, pending⟩ := pending
  by_cases same : q = p
  · subst same
    exact ⟨q, here pending⟩
  · rw [others q same] at pending
    exact ⟨q, pending⟩

/-- A thread that changes its locks to others with no more messages has no more pending. -/
theorem Thread.Pending.of_held {t : Thread} {held : List Hold} (running : t.phase = .running)
    (fewer : ∀ m, .out m ∈ held → m.buffer ≠ [] → .out m ∈ t.held)
    (pending : Thread.Pending { t with held }) : t.Pending := by
  obtain ⟨m, unsent⟩ | ⟨header, starting⟩ := pending
  · exact .inl ⟨m, .of_mem (fewer m unsent.mem unsent.1) unsent.1 (by simp [running])⟩
  · simp [running] at starting

/-- The same of a state. -/
theorem State.Pending.of_setHeld {s : State} {p : Party} {held : List Hold}
    (running : (s.threads p).phase = .running)
    (fewer : ∀ m, .out m ∈ held → m.buffer ≠ [] → .out m ∈ (s.threads p).held)
    (pending : (s.setHeld p held).Pending) : s.Pending := by
  refine pending.before p (fun q => s.setHeld_of_ne p held) ?_
  rw [State.setHeld_self]
  exact Thread.Pending.of_held running fewer

/-- A thread that changes its phase from one without writing has no more pending, unless it is about
to start a message. -/
theorem State.Pending.of_setPhase {s : State} {p : Party} {phase : Phase}
    (quiet : ∀ index rest implicit, (s.threads p).phase ≠ .writing index rest implicit)
    (starting : Thread.Starting { phase } → (s.threads p).Starting)
    (pending : (s.setPhase p phase).Pending) : s.Pending := by
  refine pending.before p (fun q => s.setPhase_of_ne p phase) ?_
  rw [State.setPhase_self]
  rintro (⟨m, unsent⟩ | start)
  · exact .inl ⟨m, .of_mem unsent.mem unsent.1 quiet⟩
  · exact .inr (starting start)

namespace Released

variable {s s' : State}

/-- Nothing is pending afterwards that was not pending before. -/
theorem mono (released : Released s) (quiet : s'.escaped = s.escaped)
    (status : s.status = .opened → s'.status ≠ .opened → ¬s.Pending)
    (fewer : s.status ≠ .opened ∨ s'.status ≠ .opened → s'.Pending → s.Pending) :
    Released s' := by
  constructor
  · rw [quiet, released.quiet]
  · intro refused pending
    by_cases opened : s.status = .opened
    · exact status opened refused (fewer (.inr refused) pending)
    · exact released.settled opened (fewer (.inl opened) pending)

/-- The status stays as it is, and if it is not open no more is pending. -/
theorem keep (released : Released s) (quiet : s'.escaped = s.escaped)
    (status : s'.status = s.status) (fewer : s.status ≠ .opened → s'.Pending → s.Pending) :
    Released s' := by
  refine released.mono quiet ?_ ?_
  · intro opened refused
    exact absurd (status.trans opened) refused
  · rw [status, or_self]
    exact fewer

/-- A careful step lets nothing escape and leaves nothing pending. -/
theorem step {action : Action} (released : Released s)
    (careful : Careful s action) (step : Step s action s') : Released s' := by
  cases step with
  | start _ =>
    refine released.mono rfl ?_ ?_
    · intro _ refused
      exact absurd rfl refused
    · intro _ pending
      exact pending
  | @call p request runs passes =>
    refine released.keep rfl rfl fun refused => ?_
    have running := Thread.runsCode_running runs
    refine State.Pending.of_setPhase (by simp [running]) ?_
    rintro ⟨header, starting⟩
    simp only [Phase.called.injEq, reduceCtorEq, or_false] at starting
    rw [starting] at passes
    simp [Request.passes, refused] at passes
  | @announce p request called =>
    refine released.keep rfl rfl fun _ => ?_
    refine State.Pending.of_setPhase (by simp [called]) ?_
    rintro ⟨header, starting⟩
    simp only [reduceCtorEq, Phase.waiting.injEq, false_or] at starting
    exact ⟨header, .inl (by rw [called, starting])⟩
  | @acquire p request waiting _ =>
    have quiet : ∀ index rest implicit, (s.threads p).phase ≠ .writing index rest implicit := by
      simp [waiting]
    have idle : (s.setPhase p .running).Pending → s.Pending :=
      State.Pending.of_setPhase quiet (by simp [Thread.Starting])
    refine released.keep (by cases request <;> rfl) (by cases request <;> rfl) ?_
    intro _ pending
    cases request with
    | startMessage header => exact ⟨p, .inr ⟨header, .inr waiting⟩⟩
    | registerHandler header => exact idle pending
    | unregisterHandler header => exact idle pending
    | clearHandlers => exact idle pending
    | _ =>
      have before := State.Pending.of_setHeld (by simp [State.setPhase])
        (fun m member _ => by simpa using member) pending
      exact idle before
  | append bytes _ _ =>
    refine released.keep rfl rfl fun refused => ?_
    exact absurd careful refused
  | flushNothing _ _ => exact released
  | @flush p index m code own unsent opened =>
    refine released.keep rfl rfl fun refused => ?_
    exact absurd opened refused
  | flushRefused running _ _ _ =>
    refine released.keep rfl rfl fun _ => ?_
    exact State.Pending.of_setHeld running fun m member _ => mem_unwind member
  | destroy running _ _ =>
    refine released.keep rfl rfl fun _ => ?_
    exact State.Pending.of_setHeld running fun m member _ => List.mem_of_mem_eraseIdx member
  | destroyUnsent _ _ _ opened =>
    refine released.keep rfl rfl fun refused => ?_
    exact absurd opened refused
  | @destroyRefused p index m running own unsent refused =>
    have held : .out m ∈ (s.threads p).held :=
      List.mem_of_getElem? (Thread.held_of_outgoing own)
    have pending : s.Pending := ⟨p, .inl ⟨m, .of_mem held unsent (by simp [running])⟩⟩
    exact absurd pending (released.settled refused)
  | @write p index count rest implicit writing _ _ _ =>
    obtain ⟨link, same⟩ := s.write_eq p index rest implicit count
    rw [same]
    refine released.keep rfl rfl fun _ pending => ?_
    refine pending.before p (fun q => s.setPhase_of_ne p _) ?_
    rintro (⟨m, unsent, place, found, apart⟩ | ⟨header, starting⟩)
    · refine .inl ⟨m, unsent, place, ?_, ?_⟩
      · simpa [State.setPhase] using found
      · intro rest' implicit' busy
        rw [writing, Phase.writing.injEq] at busy
        exact apart (rest.drop count) implicit (by simp [State.setPhase, busy.1])
    · simp [State.setPhase] at starting
  | @wrote p index m writing own =>
    refine released.keep rfl rfl fun _ pending => ?_
    refine pending.before p ?_ ?_
    · intro q other
      rw [State.setHeld_of_ne _ p _ other, State.setPhase_of_ne s p _ other]
    rintro (⟨x, unsent, place, found, _⟩ | ⟨header, starting⟩)
    · rw [State.setHeld_self, List.getElem?_set] at found
      by_cases here : index = place
      · simp only [here, if_true] at found
        split at found
        · obtain rfl := Hold.out.inj (Option.some.inj found)
          exact absurd rfl unsent
        · contradiction
      · rw [if_neg here] at found
        refine .inl ⟨x, unsent, place, found, ?_⟩
        intro rest implicit busy
        rw [writing, Phase.writing.injEq] at busy
        exact here busy.1
    · simp [State.setHeld, State.setPhase] at starting
  | @wroteImplicitly p index writing =>
    refine released.keep rfl rfl fun _ pending => ?_
    refine pending.before p ?_ ?_
    · intro q other
      rw [State.setHeld_of_ne _ p _ other, State.setPhase_of_ne s p _ other]
    rintro (⟨x, unsent, place, found, _⟩ | ⟨header, starting⟩)
    · rw [State.setHeld_self, List.getElem?_eraseIdx] at found
      by_cases before : place < index
      · rw [if_pos before] at found
        refine .inl ⟨x, unsent, place, found, ?_⟩
        intro rest implicit busy
        rw [writing, Phase.writing.injEq] at busy
        omega
      · rw [if_neg before] at found
        refine .inl ⟨x, unsent, place + 1, found, ?_⟩
        intro rest implicit busy
        rw [writing, Phase.writing.injEq] at busy
        omega
    · simp [State.setHeld, State.setPhase] at starting
  | writeFailed _ _ =>
    refine released.keep rfl rfl fun refused => ?_
    exact absurd careful.1 refused
  | writeFailedImplicitly writing _ => exact absurd writing (careful.2 _ _)
  | release runs _ _ =>
    refine released.keep rfl rfl fun _ => ?_
    exact State.Pending.of_setHeld (Thread.runsCode_running runs) fun m member _ =>
      List.mem_of_mem_eraseIdx member
  | @take p m queue result _ running _ delivered =>
    obtain ⟨held', same, _, fewer⟩ := State.deliver_eq delivered
    rw [same]
    refine released.keep rfl rfl fun _ => ?_
    exact State.Pending.of_setHeld running fun m member _ => fewer m member
  | @interrupt p hold rest running _ held _ =>
    refine released.keep rfl rfl fun _ => ?_
    exact State.Pending.of_setHeld running fun m member _ => by simp [held, member]
  | @finish p hold rest running held _ =>
    refine released.keep rfl rfl fun _ => ?_
    exact State.Pending.of_setHeld running fun m member _ => by simp [held, member]
  | @proceed p _ running goes =>
    obtain ⟨held', status, same, _, mem, unchanged | ⟨closed, sending⟩⟩ := State.proceed_eq goes
    · rw [same]
      refine released.keep rfl unchanged fun refused => ?_
      refine State.Pending.of_setHeld running fun m member _ => ?_
      exact (mem m member).resolve_right fun started => refused (unchanged ▸ started.1)
    · rw [same]
      refine released.mono rfl (fun opened _ => careful (sending opened) opened) ?_
      intro _
      refine State.Pending.of_setHeld running fun m member _ => ?_
      exact (mem m member).resolve_right fun started => by simp [closed] at started
  | writeClose =>
    refine released.mono rfl (fun opened _ => careful trivial opened) ?_
    intro _ pending
    exact pending
  | close =>
    refine released.mono rfl (fun opened _ => careful trivial opened) ?_
    intro _ pending
    exact pending
  | lock _ running _ =>
    refine released.keep rfl rfl fun _ => ?_
    exact State.Pending.of_setHeld running fun m member _ => by simp at member
  | yield running _ _ =>
    refine released.keep rfl rfl fun _ => ?_
    exact State.Pending.of_setHeld running fun m member _ => by simp at member
  | check running _ _ =>
    refine released.keep rfl rfl fun _ => ?_
    exact State.Pending.of_setHeld running fun m member _ => by simp at member
  | rest running _ =>
    refine released.keep rfl rfl fun _ => ?_
    exact State.Pending.of_setHeld running fun m member _ => by simp at member
  | arrive _ => exact released.keep rfl rfl fun _ pending => pending
  | poll _ => exact released.keep rfl rfl fun _ pending => pending
  | receive _ => exact released.keep rfl rfl fun _ pending => pending
  | enqueue _ => exact released.keep rfl rfl fun _ pending => pending
  | receiveFailed =>
    refine released.mono rfl (fun opened _ => careful trivial opened) ?_
    intro _ pending
    exact pending

end Released

/-- In every run of careful steps no destructor throws. -/
theorem release_never_raises {s : State} (reachable : transport.Reachable Careful s) :
    s.escaped = false := by
  have released : Released s := by
    refine reachable.invariant Released ⟨rfl, ?_⟩ ?_
    · rintro _ ⟨p, ⟨m, _, index, found, _⟩ | ⟨header, starting⟩⟩
      · simp [transport] at found
      · simp [transport] at starting
    · intro s action s' released careful taken
      exact released.step careful (step_of_transport taken)
  exact released.quiet

/-- A thread sends an empty message and releases it. -/
def sendOne : List Action :=
  [.start, .call (.user 0) (.startMessage 100), .announce (.user 0), .acquire (.user 0),
    .flush (.user 0) 0, .write (.user 0) 8, .wrote (.user 0), .destroy (.user 0) 0]

/-- The message is sent, and its destructor does not throw. -/
theorem release_never_raises_sendOne :
    ∃ s, transport.run transport.init sendOne = some s ∧ s.link.flushed = [⟨100, []⟩] ∧
      s.escaped = false := by
  have ran : (transport.run transport.init sendOne).map (fun s => s.link.flushed) =
      some [⟨100, []⟩] := rfl
  obtain ⟨s, ran, sent⟩ := Option.map_eq_some_iff.mp ran
  have careful : transport.Along Careful transport.init sendOne := by
    refine transport.along_of_forall ?_ _
    intro s action member
    simp only [sendOne, List.mem_cons, List.not_mem_nil, or_false] at member
    obtain rfl | rfl | rfl | rfl | rfl | rfl | rfl | rfl := member <;> exact False.elim
  exact ⟨s, ran, sent, release_never_raises (.run .init careful ran)⟩

/-- A thread has started a message when another one closes the transport. -/
def closedUnderMessage : List Action :=
  [.start, .call (.user 0) (.startMessage 100), .announce (.user 0), .acquire (.user 0), .close,
    .destroy (.user 0) 0]

/-- The destructor of the message throws. -/
theorem closedUnderMessage_raises :
    ¬∀ s, transport.Reachable (fun _ _ => True) s → s.escaped = false := by
  intro never
  have ran : (transport.run transport.init closedUnderMessage).map State.escaped = some true := rfl
  obtain ⟨s, ran, escaped⟩ := Option.map_eq_some_iff.mp ran
  have quiet := never s (System.reachable_of_run ran)
  rw [escaped] at quiet
  contradiction

end XrTransport.Transport
