import XrTransport.Transport.Mutex
import XrTransport.Transport.Stubs

/-!
# The stack of a thread in a stub

In every phase of a stub the locks of its thread have a known shape: the stub's message, above it
the call of `await_message`, and above that whatever handlers that run in it use. Only the top
changes while code that is not the stub's runs, and that code has no `FUNCTION_CALL` and does not
await a `FUNCTION_RETURN`.
-/
namespace XrTransport.Transport

/-- Not one of the stubs' locks. -/
def Hold.Plain : Hold → Prop
  | .out m => m.header ≠ functionCall
  | .await header => header ≠ functionReturn
  | _ => True

/-- Not one of the stubs' calls. -/
def Request.Plain : Request → Prop
  | .startMessage header => header ≠ functionCall
  | .awaitMessage header => header ≠ functionReturn
  | _ => True

/-- What is on the stack below the code that runs: nothing, or the call of a stub. -/
def Base (tail : List Hold) : Prop :=
  tail = [] ∨ ∃ rest, tail = .await functionReturn :: rest

/-- Above a part of the stack there is nothing of the stubs. -/
structure Above (t : Thread) (tail : List Hold) : Prop where
  /-- The locks. -/
  held : ∃ above, t.held = above ++ tail ∧ ∀ x ∈ above, x.Plain
  /-- The calls under way. -/
  phase : ∀ request, t.phase = .called request ∨ t.phase = .waiting request → request.Plain

/-- An inert lock is not one of the stubs'. -/
theorem Hold.plain_of_inert {x : Hold} (inert : x.inert = true) : x.Plain := by
  cases x <;> simp_all [Hold.inert, Hold.Plain]

/-- Nothing below is an object of the code that runs. -/
theorem Base.takeWhile {tail : List Hold} (base : Base tail) (above : List Hold) :
    (above ++ tail).takeWhile Hold.isObject = above.takeWhile Hold.isObject := by
  have none : tail.takeWhile Hold.isObject = [] := by
    obtain rfl | ⟨rest, rfl⟩ := base
    · rfl
    · simp [Hold.isObject]
  induction above with
  | nil => exact none
  | cons hold rest ih =>
    rw [List.cons_append, List.takeWhile_cons, List.takeWhile_cons, ih]

/-- The objects of the code that runs are above. -/
theorem Base.locals {t : Thread} {tail above : List Hold} (base : Base tail)
    (held : t.held = above ++ tail) {index : Nat} {x : Hold} (own : t.locals[index]? = some x) :
    above[index]? = some x := by
  rw [Thread.locals, held, base.takeWhile above] at own
  obtain ⟨inside, _⟩ := List.getElem?_eq_some_iff.mp own
  rw [← List.takeWhile_append_dropWhile (p := Hold.isObject) (l := above),
    List.getElem?_append_left inside]
  exact own

/-- An outgoing message is an object of the code that runs. -/
theorem Thread.local_of_outgoing {t : Thread} {index : Nat} {m : MessageOut}
    (own : t.outgoing index = some m) : t.locals[index]? = some (.out m) := by
  unfold Thread.outgoing at own
  split at own
  · rename_i found
    rw [found, Option.some.inj own]
  · contradiction

/-- Unwinding stays above. -/
theorem Base.unwound {tail : List Hold} (base : Base tail) {above : List Hold}
    (plain : ∀ x ∈ above, x.Plain) :
    ∃ above', unwind (above ++ tail) = above' ++ tail ∧ ∀ x ∈ above', x.Plain := by
  induction above with
  | nil =>
    refine ⟨[], ?_, by simp⟩
    obtain rfl | ⟨rest, rfl⟩ := base
    · rfl
    · rfl
  | cons hold rest ih =>
    obtain ⟨above', same, plain'⟩ := ih fun x member => plain x (by simp [member])
    have rest_plain : ∀ x ∈ rest, x.Plain := fun x member => plain x (by simp [member])
    rw [List.cons_append]
    unfold unwind
    split
    · rename_i rest' whole
      obtain ⟨rfl, rfl⟩ := List.cons.inj whole
      refine ⟨.shutdown .unwinding :: rest, rfl, ?_⟩
      intro x member
      obtain rfl | old := List.mem_cons.mp member
      · trivial
      · exact rest_plain x old
    · rename_i hold' rest' _ whole
      obtain ⟨rfl, rfl⟩ := List.cons.inj whole
      split
      · refine ⟨hold :: above', by rw [same, List.cons_append], ?_⟩
        intro x member
        obtain rfl | old := List.mem_cons.mp member
        · exact plain _ (by simp)
        · exact plain' x old
      · exact ⟨hold :: rest, rfl, plain⟩
    · simp_all

namespace Above

variable {s s' : State} {p : Party} {tail : List Hold}

/-- The thread changes its locks above. -/
theorem setHeld {held : List Hold} (running : (s.threads p).phase = .running)
    (shape : ∃ above, held = above ++ tail ∧ ∀ x ∈ above, x.Plain) :
    Above ((s.setHeld p held).threads p) tail := by
  rw [State.setHeld_self]
  exact ⟨shape, by simp [running]⟩

/-- The thread goes on to something that is not of the stubs. -/
theorem setPhase (above : Above (s.threads p) tail) {phase : Phase}
    (plain : ∀ request, phase = .called request ∨ phase = .waiting request → request.Plain) :
    Above ((s.setPhase p phase).threads p) tail := by
  rw [State.setPhase_self]
  exact ⟨above.held, plain⟩

/-- An object above is removed. -/
theorem erase (above : Above (s.threads p) tail) (base : Base tail) {index : Nat} {x : Hold}
    (own : (s.threads p).locals[index]? = some x) :
    ∃ above', (s.threads p).held.eraseIdx index = above' ++ tail ∧ ∀ x ∈ above', x.Plain := by
  obtain ⟨list, held, plain⟩ := above.held
  obtain ⟨inside, _⟩ := List.getElem?_eq_some_iff.mp (base.locals held own)
  refine ⟨list.eraseIdx index, ?_, fun x member => plain x (List.mem_of_mem_eraseIdx member)⟩
  rw [held, List.eraseIdx_append_of_lt_length inside]

/-- A message above is changed to one of the same kind. -/
theorem set (above : Above (s.threads p) tail) (base : Base tail) {index : Nat} {m : MessageOut}
    (own : (s.threads p).outgoing index = some m) (buffer : List UInt8) :
    ∃ above', (s.threads p).held.set index (.out { m with buffer }) = above' ++ tail ∧
      ∀ x ∈ above', x.Plain := by
  obtain ⟨list, held, plain⟩ := above.held
  have found := base.locals held (Thread.local_of_outgoing own)
  obtain ⟨inside, _⟩ := List.getElem?_eq_some_iff.mp found
  refine ⟨list.set index (.out { m with buffer }),
    by rw [held, List.set_append_left _ _ inside], ?_⟩
  intro x member
  obtain old | rfl := List.mem_or_eq_of_mem_set member
  · exact plain x old
  · exact plain (.out m) (List.mem_of_getElem? found)

/-- What is on top is replaced, unless it is the stub's part. -/
theorem replace {t : Thread} (above : Above t tail) (inside : tail = [] ∨ t.held ≠ tail)
    {top : Hold} {rest : List Hold} (held : t.held = top :: rest) (new : List Hold)
    (plain : ∀ x ∈ new, x = top ∨ x.Plain) :
    ∃ above', new ++ rest = above' ++ tail ∧ ∀ x ∈ above', x.Plain := by
  obtain ⟨list, whole, plainList⟩ := above.held
  cases list with
  | nil =>
    obtain rfl | apart := inside
    · simp [held] at whole
    · exact absurd whole apart
  | cons first others =>
    rw [held, List.cons_append, List.cons.injEq] at whole
    obtain ⟨rfl, rfl⟩ := whole
    refine ⟨new ++ others, by rw [List.append_assoc], ?_⟩
    intro x member
    obtain here | old := List.mem_append.mp member
    · obtain rfl | inert := plain x here
      · exact plainList _ (by simp)
      · exact inert
    · exact plainList x (by simp [old])

/-- A message that is not a reply is dealt with above the stub's part. -/
theorem deliver {m : MessageIn} {result : State × Fate} (above : Above (s.threads p) tail)
    (base : Base tail) (inside : tail = [] ∨ (s.threads p).held ≠ tail ∨ m.header ≠ functionReturn)
    (delivered : s.deliver p m (s.threads p).held = some result) :
    ∃ above', result.1 = s.setHeld p (above' ++ tail) ∧ ∀ x ∈ above', x.Plain := by
  by_cases apart : tail = [] ∨ (s.threads p).held ≠ tail
  · obtain ⟨top, rest, new, held, same, inert⟩ := State.deliver_top delivered
    obtain ⟨above', whole, plain⟩ := above.replace apart held new fun x member =>
      (inert x member).imp id Hold.plain_of_inert
    exact ⟨above', by rw [same, whole], plain⟩
  · push Not at apart
    obtain ⟨nonempty, held⟩ := apart
    have other : m.header ≠ functionReturn := by
      obtain none | apart | other := inside
      · exact absurd none nonempty
      · exact absurd held apart
      · exact other
    obtain none | ⟨rest, rfl⟩ := base
    · exact absurd none nonempty
    · rw [held] at delivered
      simp only [State.deliver, other, if_false, Option.some.injEq] at delivered
      obtain rfl := delivered
      obtain ⟨pushed, same, inert⟩ := s.dispatch_eq p (.await functionReturn :: rest) m
      exact ⟨pushed, same, fun x member => Hold.plain_of_inert (inert x member)⟩

end Above

/-- A part of the stack that starts with a call of `await_message` is apart from a stack that does
not. -/
theorem Base.apart {tail held rest : List Hold} {top : Hold} (base : Base tail)
    (whole : held = top :: rest) (other : ∀ header, top ≠ .await header) :
    tail = [] ∨ held ≠ tail := by
  obtain none | ⟨_, starts⟩ := base
  · exact .inl none
  · refine .inr fun same => ?_
    rw [whole, starts] at same
    exact other functionReturn (List.cons.inj same).1

namespace Above

variable {s s' : State} {p : Party} {tail : List Hold}

/-- A step of a thread that is not one of a stub stays above the stub's part of the stack. -/
theorem step {action : Action} (locked : Locked s) (above : Above (s.threads p) tail)
    (base : Base tail) (step : Step s action s') (own : action.party = some p)
    (plain : ∀ request, action = .call p request → request.Plain)
    (take : action = .take p →
      tail = [] ∨ (s.threads p).held ≠ tail ∨ s.returnNext = false)
    (interrupt : action = .interrupt p → tail = [] ∨ (s.threads p).held ≠ tail) :
    Above (s'.threads p) tail := by
  cases step with
  | call _ _ =>
    obtain rfl := Option.some.inj own
    refine above.setPhase fun request called => ?_
    simp only [Phase.called.injEq, reduceCtorEq, or_false] at called
    exact plain request (by rw [called])
  | @announce q request called =>
    obtain rfl := Option.some.inj own
    have counted : Above ((s.setPhase q (.waiting request)).threads q) tail := by
      refine above.setPhase fun request' waiting => ?_
      simp only [reduceCtorEq, Phase.waiting.injEq, false_or] at waiting
      exact above.phase request' (.inl (by rw [called, waiting]))
    exact counted
  | @acquire q request waiting _ =>
    obtain rfl := Option.some.inj own
    have ready : Above (({ s.setPhase q .running with
        numWaiting := s.numWaiting - 1 } : State).threads q) tail :=
      above.setPhase (by simp)
    have plainRequest := above.phase request (.inr waiting)
    obtain ⟨list, held, plain⟩ := ready.held
    have push : ∀ hold : Hold, hold.Plain → ∃ above',
        hold :: (({ s.setPhase q .running with numWaiting := s.numWaiting - 1 } : State).threads
          q).held = above' ++ tail ∧ ∀ x ∈ above', x.Plain := by
      intro hold here
      refine ⟨hold :: list, by rw [held, List.cons_append], ?_⟩
      intro x member
      obtain rfl | old := List.mem_cons.mp member
      · exact here
      · exact plain x old
    have running : (({ s.setPhase q .running with numWaiting := s.numWaiting - 1 } : State).threads
        q).phase = .running := by simp [State.setPhase]
    cases request with
    | startMessage header => exact setHeld running (push _ plainRequest)
    | awaitMessage header => exact setHeld running (push _ plainRequest)
    | handleMessage header => exact setHeld running (push _ trivial)
    | acquireMessageLock => exact setHeld running (push _ trivial)
    | registerHandler header => exact ready
    | unregisterHandler header => exact ready
    | clearHandlers => exact ready
  | append bytes runs found =>
    obtain rfl := Option.some.inj own
    exact setHeld (Thread.runsCode_running runs) (above.set base found _)
  | flushNothing _ _ => exact above
  | flush _ _ _ _ =>
    obtain rfl := Option.some.inj own
    exact above.setPhase (by simp)
  | flushRefused running _ _ _ =>
    obtain rfl := Option.some.inj own
    obtain ⟨list, held, plain⟩ := above.held
    refine setHeld running ?_
    rw [held]
    exact base.unwound plain
  | destroy running found _ =>
    obtain rfl := Option.some.inj own
    exact setHeld running (above.erase base (Thread.local_of_outgoing found))
  | destroyUnsent _ _ _ _ =>
    obtain rfl := Option.some.inj own
    exact above.setPhase (by simp)
  | destroyRefused _ _ _ _ => exact above
  | @write q index count rest implicit _ _ _ _ =>
    obtain rfl := Option.some.inj own
    obtain ⟨link, same⟩ := s.write_eq q index rest implicit count
    rw [same]
    exact above.setPhase (by simp)
  | @wrote q index m _ found =>
    obtain rfl := Option.some.inj own
    refine setHeld (by simp [State.setPhase]) ?_
    exact above.set base found _
  | @wroteImplicitly q index writing =>
    obtain rfl := Option.some.inj own
    obtain ⟨m, found, _⟩ := locked.writing q _ _ _ writing
    refine setHeld (by simp [State.setPhase]) ?_
    exact above.erase base (Thread.local_of_outgoing found)
  | @writeFailed q index rest _ _ =>
    obtain rfl := Option.some.inj own
    obtain ⟨list, held, plain⟩ := above.held
    have thrown : Above (((s.setPhase q .running).setHeld q (unwind (s.threads q).held)).threads q)
        tail := by
      refine setHeld (by simp [State.setPhase]) ?_
      rw [held]
      exact base.unwound plain
    exact thrown
  | writeFailedImplicitly _ _ =>
    obtain rfl := Option.some.inj own
    exact above.setPhase (by simp)
  | release runs found _ =>
    obtain rfl := Option.some.inj own
    exact setHeld (Thread.runsCode_running runs) (above.erase base found)
  | @take q m queue result first running _ delivered =>
    obtain rfl := Option.some.inj own
    have inside : tail = [] ∨ (s.threads q).held ≠ tail ∨ m.header ≠ functionReturn := by
      refine (take rfl).imp_right (Or.imp_right fun other => ?_)
      simpa [State.returnNext, first] using other
    obtain ⟨above', same, plain⟩ := above.deliver base inside delivered
    have after : Above ((s.setHeld q (above' ++ tail)).threads q) tail :=
      setHeld running ⟨above', rfl, plain⟩
    rw [same]
    exact after
  | @interrupt q hold rest running _ held _ =>
    obtain rfl := Option.some.inj own
    exact setHeld running (above.replace (interrupt rfl) held [] (by simp))
  | @finish q hold rest running held kind =>
    obtain rfl := Option.some.inj own
    have other : ∀ header, hold ≠ .await header := by
      obtain ⟨m, rfl⟩ | ⟨header, rfl⟩ | rfl | rfl := kind <;> simp
    exact setHeld running (above.replace (base.apart held other) held [] (by simp))
  | @proceed q _ running goes =>
    obtain rfl := Option.some.inj own
    obtain ⟨stage, rest, new, status, held, same, kinds, _⟩ := State.proceed_top goes
    have after : Above ((s.setHeld q (new ++ rest)).threads q) tail := by
      refine setHeld running (above.replace (base.apart held (by simp)) held new ?_)
      intro x member
      obtain inert | ⟨_, rfl⟩ := kinds x member
      · exact .inr (Hold.plain_of_inert inert)
      · exact .inr (by simp [Hold.Plain, MessageOut.opened, shutdown, functionCall])
    rw [same]
    exact after
  | writeClose => exact above
  | lock free running _ =>
    obtain rfl := Option.some.inj own
    have nothing : (s.threads .consumer).held = [] := by
      by_contra has
      simp [(locked.owner _).mp has] at free
    obtain ⟨list, held, _⟩ := above.held
    obtain ⟨_, rfl⟩ := List.append_eq_nil_iff.mp (held.symm.trans nothing)
    exact setHeld running ⟨[.consumer .locked], rfl, by simp [Hold.Plain]⟩
  | yield running held _ =>
    obtain rfl := Option.some.inj own
    exact setHeld running (above.replace (base.apart held (by simp)) held [] (by simp))
  | check running held _ =>
    obtain rfl := Option.some.inj own
    exact setHeld running
      (above.replace (base.apart held (by simp)) held [.consumer .checked] (by simp [Hold.Plain]))
  | rest running held =>
    obtain rfl := Option.some.inj own
    exact setHeld running (above.replace (base.apart held (by simp)) held [] (by simp))
  | _ => simp [Action.party] at own

end Above

end XrTransport.Transport
