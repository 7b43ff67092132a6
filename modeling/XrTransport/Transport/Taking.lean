import XrTransport.Transport.Mutex

/-!
# Taking a message

A message is taken from the front of the queue by the innermost loop on a thread's stack, and what
becomes of it shows on that stack: the `await_message` that waits for it returns it, its handler
starts to run, a shutdown starts to be interpreted, or nothing is left of it. No other step puts any
of these on a stack.
-/
namespace XrTransport.Transport

/-- The functions that take messages from the queue. -/
def Hold.isLoop : Hold → Bool
  | .await _ | .handle _ _ | .consumer _ => true
  | _ => false

/-- The innermost function on the call stack that takes messages. -/
def Thread.loop (t : Thread) : Option Hold := t.held.find? Hold.isLoop

/-- A loop that has passed a message on: `handle_message` has handled it when it waits for it, and
an iteration of `consumer_loop` has dispatched it. -/
def Hold.passedOn (m : MessageIn) : Hold → Hold
  | .handle header false => .handle header (m.header = header)
  | .consumer .checked => .consumer .dispatched
  | loop => loop

/-- What becomes of a message that a loop takes, and what it leaves on the stack. -/
inductive Outcome (handlers : List UInt16) (m : MessageIn) : Hold → Fate → List Hold → Prop where
  /-- The `await_message` that waits for it returns it. -/
  | returned : Outcome handlers m (.await m.header) .returned [.received m]
  /-- Its handler runs inside the loop. -/
  | handled {loop : Hold} (other : loop ≠ .await m.header) (plain : m.header ≠ shutdown)
      (registered : m.header ∈ handlers) :
      Outcome handlers m loop .handled [.handler m, loop.passedOn m]
  /-- It is dropped, and the loop goes on. -/
  | dropped {loop : Hold} (other : loop ≠ .await m.header) (plain : m.header ≠ shutdown)
      (unregistered : m.header ∉ handlers) :
      Outcome handlers m loop .dropped [loop.passedOn m]
  /-- It is interpreted inside the loop. -/
  | shutdown {loop : Hold} (other : loop ≠ .await m.header) (last : m.header = shutdown) :
      Outcome handlers m loop .shutdown [.shutdown .popped, loop.passedOn m]

/-- Between two states a message is taken from the queue, and becomes what is noted of it. -/
structure Taken.Delivered (entry : Taken) (s s' : State) : Prop where
  /-- The transport is not closed. -/
  alive : s.status ≠ .closed
  /-- It is the first one of the queue. -/
  first : s.inbox.queue = entry.message :: s'.inbox.queue
  /-- The handlers noted are those of this moment. -/
  handlers : entry.handlers = s.handlers
  /-- The innermost function of the thread is a loop, in whose place the stack gets the outcome. -/
  outcome : ∃ loop rest frames, (s.threads entry.taker).held = loop :: rest ∧ loop.isLoop = true ∧
    Outcome entry.handlers entry.message loop entry.fate frames ∧
    (s'.threads entry.taker).held = frames ++ rest
  /-- No other thread is touched. -/
  others : ∀ p, p ≠ entry.taker → s'.threads p = s.threads p

/-- The outcome for a loop that waits for something else is that of `dispatch_to_handler`. -/
theorem State.dispatch_outcome (s : State) (p : Party) {loop : Hold} (rest : List Hold)
    {m : MessageIn} (other : loop ≠ .await m.header) :
    ∃ frames, Outcome s.handlers m loop (s.dispatch p (loop.passedOn m :: rest) m).2 frames ∧
      (s.dispatch p (loop.passedOn m :: rest) m).1 = s.setHeld p (frames ++ rest) := by
  unfold State.dispatch
  by_cases last : m.header = Transport.shutdown
  · rw [if_pos last]
    exact ⟨_, .shutdown other last, rfl⟩
  · by_cases registered : m.header ∈ s.handlers
    · rw [if_neg last, if_pos registered]
      exact ⟨_, .handled other last registered, rfl⟩
    · rw [if_neg last, if_neg registered]
      exact ⟨_, .dropped other last registered, rfl⟩

/-- Whatever takes a message is a loop, and has the outcome of its kind. -/
theorem State.deliver_outcome {s : State} {p : Party} {m : MessageIn} {held : List Hold}
    {result : State × Fate} (delivered : s.deliver p m held = some result) :
    ∃ loop rest frames, held = loop :: rest ∧ loop.isLoop = true ∧
      Outcome s.handlers m loop result.2 frames ∧ result.1 = s.setHeld p (frames ++ rest) := by
  unfold State.deliver at delivered
  split at delivered
  · rename_i header rest
    by_cases own : m.header = header
    · subst own
      rw [if_pos rfl] at delivered
      obtain rfl := Option.some.inj delivered
      exact ⟨_, rest, _, rfl, rfl, .returned, rfl⟩
    · rw [if_neg own] at delivered
      obtain rfl := Option.some.inj delivered
      have other : Hold.await header ≠ .await m.header := fun same => own (Hold.await.inj same).symm
      obtain ⟨frames, outcome, after⟩ := s.dispatch_outcome p rest other
      exact ⟨_, rest, frames, rfl, rfl, outcome, after⟩
  · rename_i header rest
    obtain rfl := Option.some.inj delivered
    have other : Hold.handle header false ≠ .await m.header := by simp
    obtain ⟨frames, outcome, after⟩ := s.dispatch_outcome p rest other
    exact ⟨_, rest, frames, rfl, rfl, outcome, after⟩
  · rename_i rest
    obtain rfl := Option.some.inj delivered
    have other : Hold.consumer .checked ≠ .await m.header := by simp
    obtain ⟨frames, outcome, after⟩ := s.dispatch_outcome p rest other
    exact ⟨_, rest, frames, rfl, rfl, outcome, after⟩
  · contradiction

/-- Only the step that takes a message changes what has been taken. -/
theorem Step.taken_eq {s s' : State} {action : Action} (step : Step s action s')
    (other : ∀ p, action ≠ .take p) : s'.taken = s.taken := by
  cases step with
  | take => exact absurd rfl (other _)
  | @acquire p request _ _ =>
    obtain ⟨hold, same, _⟩ | ⟨handlers, same⟩ := State.grant_eq
      { s.setPhase p .running with numWaiting := s.numWaiting - 1 } p request
    · rw [same]
      rfl
    · rw [same]
      rfl
  | @write p index count rest implicit _ _ _ _ =>
    obtain ⟨link, same⟩ := s.write_eq p index rest implicit count
    rw [same]
    rfl
  | @proceed p _ _ goes =>
    obtain ⟨held', status, same, _⟩ := State.proceed_eq goes
    rw [same]
    rfl
  | _ => rfl

/-- A step that takes a message delivers it. -/
theorem Step.delivered {s s' : State} {p : Party} (step : Step s (.take p) s') :
    ∃ entry : Taken, entry.taker = p ∧ s'.taken = s.taken ++ [entry] ∧ entry.Delivered s s' := by
  cases step with
  | @take _ m queue result first running alive delivered =>
    obtain ⟨loop, rest, frames, held, isLoop, outcome, after⟩ := State.deliver_outcome delivered
    refine ⟨⟨m, p, result.2, s.handlers⟩, rfl, rfl, alive, first, rfl, ?_, ?_⟩
    · refine ⟨loop, rest, frames, held, isLoop, outcome, ?_⟩
      rw [after, State.setHeld_self]
    · intro q other
      rw [after]
      exact s.setHeld_of_ne p _ other

/-- What has been taken grows by a message only when that message is delivered. -/
theorem Step.delivered_of_taken {s s' : State} {action : Action} {entry : Taken}
    (step : Step s action s') (taken : s'.taken = s.taken ++ [entry]) :
    action = .take entry.taker ∧ entry.Delivered s s' := by
  by_cases takes : ∃ p, action = .take p
  · obtain ⟨p, rfl⟩ := takes
    obtain ⟨entry', rfl, grown, delivered⟩ := step.delivered
    have same : entry' = entry := by
      rw [taken] at grown
      exact (List.singleton_inj.mp (List.append_cancel_left grown)).symm
    subst same
    exact ⟨rfl, delivered⟩
  · have still : s'.taken = s.taken := step.taken_eq fun p same => takes ⟨p, same⟩
    rw [still] at taken
    simp at taken

/-- What a delivered message leaves on a stack. -/
def Hold.delivers : Hold → Bool
  | .received _ | .handler _ | .shutdown .popped => true
  | _ => false

/-- The deliveries on the stack of a thread. -/
def Thread.deliveries (t : Thread) : List Hold := t.held.filter Hold.delivers

/-- An exception delivers nothing. -/
theorem deliveries_unwind (held : List Hold) :
    (unwind held).filter Hold.delivers = held.filter Hold.delivers := by
  fun_induction unwind held with
  | case1 rest => simp [Hold.delivers]
  | case2 hold rest _ object ih => rw [List.filter_cons, List.filter_cons, ih]
  | case3 hold rest _ _ => rfl
  | case4 => rfl

/-- Changing the bytes of an outgoing message delivers nothing. -/
theorem deliveries_set {held : List Hold} {index : Nat} {m m' : MessageOut}
    (there : held[index]? = some (.out m)) :
    (held.set index (.out m')).filter Hold.delivers = held.filter Hold.delivers := by
  induction held generalizing index with
  | nil => rfl
  | cons hold rest ih =>
    cases index with
    | zero =>
      obtain rfl : hold = .out m := by simpa using there
      simp [Hold.delivers]
    | succ index =>
      have behind : rest[index]? = some (.out m) := by simpa using there
      rw [List.set_cons_succ, List.filter_cons, List.filter_cons, ih behind]

/-- Locks that come and go on one stack deliver nothing elsewhere. -/
theorem State.setHeld_deliveries {s : State} {p : Party} {held : List Hold}
    (fewer : (held.filter Hold.delivers).Sublist (s.threads p).deliveries) (q : Party) :
    ((s.setHeld p held).threads q).deliveries.Sublist (s.threads q).deliveries := by
  by_cases same : q = p
  · subst same
    rw [State.setHeld_self]
    exact fewer
  · rw [State.setHeld_of_ne s p held same]

/-- Going on to something else delivers nothing. -/
theorem State.setPhase_deliveries (s : State) (p : Party) (phase : Phase) (q : Party) :
    ((s.setPhase p phase).threads q).deliveries = (s.threads q).deliveries := by
  by_cases same : q = p
  · subst same
    rw [State.setPhase_self]
    rfl
  · rw [State.setPhase_of_ne s p phase same]

/-- A call that has the mutex delivers nothing. -/
theorem State.grant_deliveries (s : State) (p : Party) (request : Request) (q : Party) :
    ((s.grant p request).threads q).deliveries.Sublist (s.threads q).deliveries := by
  cases request with
  | registerHandler header => exact List.Sublist.refl _
  | unregisterHandler header => exact List.Sublist.refl _
  | clearHandlers => exact List.Sublist.refl _
  | _ =>
    apply State.setHeld_deliveries
    exact List.Sublist.refl _

/-- Interpreting a shutdown delivers nothing more. -/
theorem State.proceed_deliveries {s s' : State} {p : Party}
    (goes : s.proceed p (s.threads p).held = some s') (q : Party) :
    (s'.threads q).deliveries.Sublist (s.threads q).deliveries := by
  obtain ⟨stage, rest, new, status, held, rfl, none⟩ :
      ∃ stage rest new status, (s.threads p).held = .shutdown stage :: rest ∧
        s' = { s.setHeld p (new ++ rest) with status := status } ∧
        new.filter Hold.delivers = [] := by
    unfold State.proceed at goes
    split at goes
    · rename_i rest held
      split at goes
      · exact ⟨_, rest, [.shutdown .answering], _, held, (Option.some.inj goes).symm, rfl⟩
      · exact ⟨_, rest, [], _, held, (Option.some.inj goes).symm, rfl⟩
    · rename_i rest held
      split at goes
      · exact ⟨_, rest, [.out (.opened shutdown), .shutdown .sending], _, held,
          (Option.some.inj goes).symm, rfl⟩
      · exact ⟨_, rest, [], _, held, (Option.some.inj goes).symm, rfl⟩
    · rename_i rest held
      exact ⟨_, rest, [], _, held, (Option.some.inj goes).symm, rfl⟩
    · contradiction
  have fewer : ((new ++ rest).filter Hold.delivers).Sublist (s.threads p).deliveries := by
    rw [List.filter_append, none, List.nil_append, Thread.deliveries, held]
    exact (List.sublist_cons_self _ rest).filter _
  exact State.setHeld_deliveries fewer q

/-- A step that takes no message delivers none. -/
theorem Step.deliveries_sublist {s s' : State} {action : Action} (step : Step s action s')
    (other : ∀ p, action ≠ .take p) (q : Party) :
    (s'.threads q).deliveries.Sublist (s.threads q).deliveries := by
  have erased : ∀ p index, (((s.threads p).held.eraseIdx index).filter Hold.delivers).Sublist
      (s.threads p).deliveries := fun p index => (List.eraseIdx_sublist _ index).filter _
  have popped : ∀ {p hold rest}, (s.threads p).held = hold :: rest →
      (rest.filter Hold.delivers).Sublist (s.threads p).deliveries := by
    intro p hold rest held
    rw [Thread.deliveries, held]
    exact (List.sublist_cons_self hold rest).filter _
  have still : ∀ p phase q, ((s.setPhase p phase).threads q).deliveries.Sublist
      (s.threads q).deliveries := fun p phase q => by rw [s.setPhase_deliveries]
  cases step with
  | take => exact absurd rfl (other _)
  | @call p request => exact still p _ q
  | @announce p request => exact still p _ q
  | @acquire p request _ _ =>
    exact (State.grant_deliveries _ p request q).trans (still p .running q)
  | @append p index m bytes runs own =>
    apply State.setHeld_deliveries
    rw [deliveries_set (Thread.held_of_outgoing own)]
    exact List.Sublist.refl _
  | @flush p index => exact still p _ q
  | @flushRefused p index m running own =>
    apply State.setHeld_deliveries
    rw [deliveries_unwind]
    exact List.Sublist.refl _
  | @destroy p index =>
    apply State.setHeld_deliveries
    exact erased p index
  | @destroyUnsent p index => exact still p _ q
  | @write p index count rest implicit =>
    obtain ⟨link, same⟩ := s.write_eq p index rest implicit count
    rw [same]
    exact still p _ q
  | @wrote p index m writing own =>
    refine List.Sublist.trans ?_ (still p .running q)
    apply State.setHeld_deliveries
    rw [deliveries_set (Thread.held_of_outgoing own), State.setPhase_self]
    exact List.Sublist.refl _
  | @wroteImplicitly p index writing =>
    refine List.Sublist.trans ?_ (still p .running q)
    apply State.setHeld_deliveries
    rw [State.setPhase_self]
    exact erased p index
  | @writeFailed p index rest writing left =>
    refine List.Sublist.trans ?_ (still p .running q)
    have unwound : ((unwind (s.threads p).held).filter Hold.delivers).Sublist
        ((s.setPhase p .running).threads p).deliveries := by
      rw [deliveries_unwind, State.setPhase_self]
      exact List.Sublist.refl _
    exact State.setHeld_deliveries unwound q
  | @writeFailedImplicitly p index => exact still p _ q
  | @release p index =>
    apply State.setHeld_deliveries
    exact erased p index
  | @interrupt p hold rest _ _ held =>
    apply State.setHeld_deliveries
    exact popped held
  | @finish p hold rest _ held =>
    apply State.setHeld_deliveries
    exact popped held
  | proceed _ goes => exact State.proceed_deliveries goes q
  | lock | yield | check | rest =>
    apply State.setHeld_deliveries
    exact List.nil_sublist _
  | _ => exact List.Sublist.refl _

end XrTransport.Transport
