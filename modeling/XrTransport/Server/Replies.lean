import XrTransport.Server.InstanceState
import XrTransport.Server.LivePointers

/-!
# One reply for each request

The client waits for the reply of every request it sends. A handler sends its reply last, and an
exception on the way there is swallowed, so that a request is answered exactly if nothing on the way
of its handler throws or crashes. `Answerable` says so of the request and the state before it.
-/
namespace XrTransport.Server

open Program (Keeps Returns Tests forEach)

/-- The server has sent one message of a header, and all of it. -/
def AnsweredBy (header : Header) (s : State) : Prop :=
  ∃ reply, s.replies = [reply] ∧ reply.header = header ∧ reply.complete = true

/-- When dispatching a request returns, the server has sent exactly one complete reply of the header
that the client waits for. -/
def AnsweredOnce (s : State) (delivery : Delivery) : Prop :=
  ∃ s', dispatch s delivery = some s' ∧ AnsweredBy delivery.request.replyHeader s'

/-- A variable holds a pointer after `ensure_function_loaded`. -/
def State.loads (s : State) (answers : Answers) (slot : Slot) : Bool :=
  (s.pointers slot).isSome || answers.grants slot.function

/-- The state after `ensure_function_loaded`, if that returns. -/
def State.load (s : State) (slot : Slot) : State :=
  if (s.pointers slot).isSome then s else s.cache slot

/-- The state after the maps of `destroy_swapchain` have been changed. -/
def State.unlist (s : State) (handle parent : Nat) (session : SessionState) : State :=
  { s with
    swapchainStates := fun other => if other = handle then none else s.swapchainStates other
    sessionStates := fun other =>
      if other = parent then some ⟨session.swapchains.erase handle⟩ else s.sessionStates other }

/-- The variables that `setup_vulkan_instance` calls through. -/
def setupSlots : List Slot :=
  [.member .getSystem, .pfn .getVulkanGraphicsRequirements2, .pfn .createVulkanInstance,
    .pfn .getVulkanGraphicsDevice2, .pfn .createVulkanDevice]

/-- What `setup_vulkan_instance` calls succeeds. -/
def Answers.setsUp (answers : Answers) : Prop :=
  (answers.result .getSystem 0).succeeded = true ∧
    (answers.result .getVulkanGraphicsRequirements2 0).succeeded = true ∧
    answers.vkResult .createVulkanInstance = .success ∧
    (answers.result .createVulkanInstance 0).succeeded = true ∧
    answers.vulkan .initInstance = .completed ∧
    (answers.result .getVulkanGraphicsDevice2 0).succeeded = true ∧
    answers.vulkan .selectQueueFamily = .completed ∧
    answers.vkResult .createVulkanDevice = .success ∧
    answers.result .createVulkanDevice 0 = .success ∧
    answers.vulkan .initDevice = .completed

section Conditions

variable (answers : Answers) (payload : Payload) (s : State)

/-- The request of `xrCreateInstance`: it can be loaded and decoded, its pointers are not null, and
if it succeeds, so does the setup of the Vulkan module. -/
def CreateInstanceAnswerable : Prop :=
  s.loads answers (.member .createInstance) = true ∧ payload.decodes = true ∧
    payload.createInfo = true ∧
    ((answers.result .createInstance 0).succeeded = true → payload.instanceOut = true ∧
      (.vulkan ∈ s.modules →
        (∀ slot ∈ instanceSlots, s.loads answers slot = true) ∧ answers.setsUp))

/-- The request of `xrDestroyInstance`. -/
def DestroyInstanceAnswerable : Prop :=
  s.loads answers (.member .destroyInstance) = true ∧ payload.decodes = true ∧
    (payload.handle = s.savedInstance → .vulkan ∈ s.modules →
      answers.vulkan .destroyCommandPool = .completed)

/-- The request of a function: its id is known, it can be loaded and decoded, and what it returns
can be serialized. -/
def FunctionAnswerable : Option Function → Prop
  | none => False
  | some function =>
    if function = .createInstance then CreateInstanceAnswerable answers payload s
    else if function = .destroyInstance then DestroyInstanceAnswerable answers payload s
    else
      s.loads answers (.member function) = true ∧ payload.decodes = true ∧
        answers.serializes = true

/-- `destroy_swapchain` finds the swapchain and its session, and nothing it calls fails. -/
def Destroyable (handle : Nat) : Prop :=
  (∃ swapchain, s.swapchainStates handle = some swapchain ∧
    (s.sessionStates swapchain.parentHandle).isSome = true) ∧
    answers.vulkan .destroyImages = .completed ∧
    (s.pointers (.member .destroySwapchain)).isSome = true

/-- A swapchain is not registered under a session. -/
def Outside (session handle : Nat) : Prop :=
  ∀ swapchain ∈ s.swapchainStates handle, swapchain.parentHandle ≠ session

/-- The request to create a swapchain. -/
def CreateSwapchainAnswerable : Prop :=
  payload.decodes = true ∧ payload.createInfo = true ∧
    (s.pointers (.member .createSwapchain)).isSome = true ∧
    (answers.result .createSwapchain 0 = .success →
      (s.sessionStates payload.handle).isSome = true ∧
      (s.pointers (.member .enumerateSwapchainImages)).isSome = true ∧
      (answers.result .enumerateSwapchainImages 0).succeeded = true ∧
      (answers.result .enumerateSwapchainImages 1).succeeded = true ∧
      answers.vulkan .createImages = .completed ∧ payload.usable = true ∧
      answers.vulkan .exportImages = .completed)

/-- The request to destroy a session: it is known, and its swapchains, if it has any, can be
destroyed and are registered under another session, since the loop would go on from an erased
element. -/
def DestroySessionAnswerable : Prop :=
  payload.decodes = true ∧
    (∃ session, s.sessionStates payload.handle = some session ∧ session.swapchains.Nodup ∧
      ∀ handle ∈ session.swapchains,
        Destroyable answers s handle ∧ Outside s payload.handle handle) ∧
    (s.pointers (.member .destroySession)).isSome = true

/-- The request to release an image. -/
def ReleaseImageAnswerable : Prop :=
  payload.decodes = true ∧ (s.swapchainStates payload.handle).isSome = true ∧
    (s.pointers (.member .acquireSwapchainImage)).isSome = true ∧
    answers.vulkan .recordCopy = .completed ∧
    (s.pointers (.member .waitSwapchainImage)).isSome = true ∧
    answers.result .waitSwapchainImage 0 = .success ∧
    answers.vulkan .submitCopy = .completed ∧
    (s.pointers (.member .releaseSwapchainImage)).isSome = true ∧
    (answers.result .releaseSwapchainImage 0).succeeded = true

/-- When a handler sends its reply. -/
def HandlerAnswers : Request → Prop
  | .functionCall function => FunctionAnswerable answers payload s function
  | .synchronizationRequest =>
    s.loads answers .fromPlatformTime = true ∧ s.loads answers .toPlatformTime = true ∧
      payload.decodes = true
  | .pollEvent => s.loads answers (.member .pollEvent) = true
  | .getPhysicalDevice => True
  | .createSwapchain => CreateSwapchainAnswerable answers payload s
  | .destroySwapchain => payload.decodes = true ∧ Destroyable answers s payload.handle
  | .createSession =>
    payload.decodes = true ∧ (s.pointers (.member .createSession)).isSome = true ∧
      (answers.result .createSession 0).succeeded = true
  | .destroySession => DestroySessionAnswerable answers payload s
  | .releaseSwapchainImage => ReleaseImageAnswerable answers payload s
  | .getSwapchainImageHandles => payload.decodes = true

end Conditions

/-- When a request is answered: the process runs, a handler is registered, and it gets to its reply.
-/
structure Answerable (s : State) (delivery : Delivery) : Prop where
  /-- The process has not crashed. -/
  running : s.crashed = false
  /-- The module of the request is loaded. -/
  registered : delivery.request.registered s.modules = true
  /-- Its handler sends a reply. -/
  answers : HandlerAnswers delivery.answers delivery.payload s delivery.request

section Steps

variable {header : Header} {s : State} {next : Handler Unit}

/-- Without a reply nothing is answered. -/
theorem not_answered (unanswered : Unanswered s) : ¬AnsweredBy header s := by
  rintro ⟨reply, sent, -⟩
  rw [unanswered] at sent
  cases sent

/-- What sends nothing has to return. -/
theorem answered_bind {α : Type} {first : Handler α} {next : α → Handler Unit}
    (quiet : Keeps State.replies first) (unanswered : Unanswered s) :
    AnsweredBy header ((first >>= next) s).2 ↔
      ∃ value s', first s = (some value, s') ∧ AnsweredBy header (next value s').2 := by
  have kept := quiet s
  rw [Program.bind_apply, Program.andThen]
  rcases ended : first s with ⟨_ | value, s'⟩
  · rw [ended] at kept
    exact iff_of_false (not_answered (kept.trans unanswered)) (by simp)
  · simp

/-- So has a step that returns exactly under a condition. -/
theorem answered_step {first : Handler Unit} {passes : Prop} {s' : State}
    (quiet : Keeps State.replies first) (unanswered : Unanswered s)
    (returned : passes → first s = (some (), s')) (thrown : ¬passes → (first s).1 = none) :
    AnsweredBy header ((do first; next) s).2 ↔ passes ∧ AnsweredBy header (next s').2 := by
  rw [answered_bind quiet unanswered]
  constructor
  · rintro ⟨value, after, ended, answered⟩
    have passed : passes := by
      by_contra fails
      have none := thrown fails
      rw [ended] at none
      cases none
    rw [returned passed] at ended
    cases ended
    exact ⟨passed, answered⟩
  · rintro ⟨passed, answered⟩
    exact ⟨(), s', returned passed, answered⟩

/-- A silent program sends nothing. -/
theorem Silent.replies {α : Type} {program : Handler α} (silent : Silent program) :
    Keeps State.replies program :=
  silent.map Prod.snd

/-- `attempt` has to succeed. -/
theorem answered_attempt {succeeds : Bool} (unanswered : Unanswered s) :
    AnsweredBy header ((do attempt succeeds; next) s).2 ↔
      succeeds = true ∧ AnsweredBy header (next s).2 := by
  refine answered_step (silent_attempt _).replies unanswered ?_ ?_
  · rintro rfl
    rfl
  · intro fails
    rw [attempt, if_neg fails]
    rfl

/-- A pointer that is read has to be there. -/
theorem answered_dereference {present : Bool} (unanswered : Unanswered s) :
    AnsweredBy header ((do dereference present; next) s).2 ↔
      present = true ∧ AnsweredBy header (next s).2 := by
  refine answered_step (silent_dereference _).replies unanswered ?_ ?_
  · rintro rfl
    rfl
  · intro fails
    rw [dereference, if_neg fails]
    rfl

/-- Code that calls only Vulkan has to return. -/
theorem answered_runPart {answers : Answers} {part : VulkanPart} (unanswered : Unanswered s) :
    AnsweredBy header ((do runPart answers part; next) s).2 ↔
      answers.vulkan part = .completed ∧ AnsweredBy header (next s).2 := by
  refine answered_step (silent_runPart answers part).replies unanswered ?_ ?_
  · intro completed
    rw [runPart, completed]
    rfl
  · intro fails
    unfold runPart
    cases ended : answers.vulkan part with
    | completed => exact absurd ended fails
    | threw => rfl
    | crashed => rfl

/-- A call has to find a pointer in the variable. -/
theorem answered_call {slot : Slot} (unanswered : Unanswered s) :
    AnsweredBy header ((do callPointer slot; next) s).2 ↔
      (s.pointers slot).isSome = true ∧ AnsweredBy header (next (s.record slot)).2 := by
  refine answered_step (silent_call slot).replies unanswered ?_ ?_
  · intro filled
    rw [callPointer, if_pos filled]
  · intro fails
    rw [callPointer, if_neg fails]

/-- A function has to be loaded already, or to be granted. -/
theorem answered_ensure {answers : Answers} {slot : Slot} (unanswered : Unanswered s) :
    AnsweredBy header ((do ensureFunctionLoaded answers slot; next) s).2 ↔
      s.loads answers slot = true ∧ AnsweredBy header (next (s.load slot)).2 := by
  refine answered_step (silent_ensure answers slot).replies unanswered ?_ ?_
  · intro loads
    rw [ensureFunctionLoaded, State.load]
    split
    · rfl
    next empty =>
      rw [State.loads, Bool.or_eq_true] at loads
      rw [if_pos (loads.resolve_left empty)]
  · intro fails
    rw [State.loads, Bool.or_eq_true, not_or] at fails
    rw [ensureFunctionLoaded, if_neg fails.1, if_neg fails.2]

/-- A value has to be there. -/
theorem answered_valueOf {α : Type} {value : Option α} {next : α → Handler Unit}
    (unanswered : Unanswered s) :
    AnsweredBy header ((valueOf value >>= next) s).2 ↔
      ∃ found, value = some found ∧ AnsweredBy header (next found s).2 := by
  cases value with
  | none => exact iff_of_false (not_answered unanswered) (by simp)
  | some found => simp [valueOf, Program.bind_apply, Program.andThen]

/-- A reply answers if it has the header and is complete. -/
theorem answered_send {reply : Reply} (unanswered : Unanswered s) :
    AnsweredBy header (send reply s).2 ↔ reply.header = header ∧ reply.complete = true := by
  have sent : (send reply s).2.replies = [reply] := by
    show s.replies ++ [reply] = [reply]
    rw [unanswered, List.nil_append]
  rw [AnsweredBy, sent]
  constructor
  · rintro ⟨other, same, named⟩
    cases same
    exact named
  · exact fun named => ⟨reply, rfl, named⟩

/-- What follows the reply and sends nothing does not matter. -/
theorem answered_send_then {reply : Reply} (quiet : Keeps State.replies next)
    (unanswered : Unanswered s) :
    AnsweredBy header ((do send reply; next) s).2 ↔
      reply.header = header ∧ reply.complete = true := by
  rw [← answered_send (s := s) unanswered]
  have same := quiet (send reply s).2
  rw [AnsweredBy, AnsweredBy, ← same]
  rfl

/-- What tests a part of the state has to return, and what follows has to answer. -/
theorem answered_tests {γ : Type} {part : State → γ} {passes : γ → Prop} {first : Handler Unit}
    (rest : Prop) (tests : Tests part first passes) (quiet : Keeps State.replies first)
    (unanswered : Unanswered s)
    (after : ∀ s', Unanswered s' → part s' = part s →
      (AnsweredBy header (next s').2 ↔ rest)) :
    AnsweredBy header ((do first; next) s).2 ↔ passes (part s) ∧ rest := by
  rw [answered_bind quiet unanswered, ← tests.returns]
  have still {value : Unit} {s' : State} (ended : first s = (some value, s')) :
      AnsweredBy header (next s').2 ↔ rest := by
    have replies := quiet s
    have same := tests.kept s
    rw [ended] at replies same
    exact after s' (replies.trans unanswered) same
  constructor
  · rintro ⟨value, s', ended, answered⟩
    exact ⟨⟨value, s', ended⟩, (still ended).mp answered⟩
  · rintro ⟨⟨value, s', ended⟩, holds⟩
    exact ⟨value, s', ended, (still ended).mpr holds⟩

/-- A reply after something that sends nothing. -/
theorem answered_then_send {first : Handler Unit} {reply : Reply}
    (quiet : Keeps State.replies first) (unanswered : Unanswered s) (named : reply.header = header)
    (complete : reply.complete = true) :
    AnsweredBy header ((do first; send reply) s).2 ↔ Returns first s := by
  rw [answered_bind quiet unanswered]
  constructor
  · rintro ⟨value, s', ended, -⟩
    exact ⟨value, s', ended⟩
  · rintro ⟨value, s', ended⟩
    have kept := quiet s
    rw [ended] at kept
    exact ⟨value, s', ended, (answered_send (kept.trans unanswered)).mpr ⟨named, complete⟩⟩

/-- Changing the state otherwise is no reply. -/
theorem answered_modify {change : State → State} :
    AnsweredBy header ((do Program.modify change; next) s).2 ↔
      AnsweredBy header (next (change s)).2 :=
  Iff.rfl

/-- Neither is reading it. -/
theorem answered_get {next : State → Handler Unit} :
    AnsweredBy header ((Program.get >>= next) s).2 ↔ AnsweredBy header (next s s).2 :=
  Iff.rfl

/-- The state after loading has sent nothing. -/
theorem Unanswered.load {slot : Slot} (unanswered : Unanswered s) : Unanswered (s.load slot) := by
  unfold State.load
  split
  · exact unanswered
  · exact unanswered

/-- Loading does not touch the modules. -/
theorem load_modules {slot : Slot} : (s.load slot).modules = s.modules := by
  unfold State.load
  split
  · rfl
  · rfl

/-- It does not touch `saved_instance`. -/
theorem load_savedInstance {slot : Slot} : (s.load slot).savedInstance = s.savedInstance := by
  unfold State.load
  split
  · rfl
  · rfl

/-- A variable is filled once it has been loaded. -/
theorem load_filled {slot other : Slot} :
    ((s.load slot).pointers other).isSome = true ↔
      other = slot ∨ (s.pointers other).isSome = true := by
  unfold State.load
  split
  next filled =>
    constructor
    · exact Or.inr
    · rintro (rfl | there)
      · exact filled
      · exact there
  next empty =>
    simp only [State.cache]
    split
    next same => exact iff_of_true rfl (.inl same)
    next apart => exact ⟨.inr, fun either => either.resolve_left apart⟩

/-- Loading one variable changes nothing about whether another can be loaded. -/
theorem load_loads {answers : Answers} {slot other : Slot} (loads : s.loads answers slot = true) :
    (s.load slot).loads answers other = s.loads answers other := by
  rw [Bool.eq_iff_iff, State.loads, Bool.or_eq_true, load_filled, State.loads, Bool.or_eq_true]
  by_cases same : other = slot
  · subst same
    rw [State.loads, Bool.or_eq_true] at loads
    tauto
  · simp [same]

end Steps

section Generated

variable {answers : Answers} {payload : Payload} {s : State}

/-- The generated handlers. -/
theorem handleGenerated_answered {function : Function} (unanswered : Unanswered s) :
    AnsweredBy .functionReturn (handleGenerated answers function payload s).2 ↔
      s.loads answers (.member function) = true ∧ payload.decodes = true ∧
        answers.serializes = true := by
  unfold handleGenerated
  refine (answered_ensure unanswered).trans (and_congr_right fun _ => ?_)
  refine (answered_attempt unanswered.load).trans (and_congr_right fun _ => ?_)
  refine (answered_call unanswered.load).trans ?_
  rw [answered_send_then (silent_attempt _).replies (s := (s.load _).record _) unanswered.load]
  simp [load_filled]

/-- The handler of `XRTP_MSG_SYNCHRONIZATION_REQUEST`. -/
theorem handleSynchronizationRequest_answered (unanswered : Unanswered s) :
    AnsweredBy .synchronizationResponse (handleSynchronizationRequest answers payload s).2 ↔
      s.loads answers .fromPlatformTime = true ∧ s.loads answers .toPlatformTime = true ∧
        payload.decodes = true := by
  unfold handleSynchronizationRequest
  refine (answered_ensure unanswered).trans (and_congr_right fun loads => ?_)
  rw [answered_ensure unanswered.load, load_loads loads]
  refine and_congr_right fun _ => ?_
  refine (answered_attempt unanswered.load.load).trans (and_iff_left_of_imp fun _ => ?_)
  refine (answered_call unanswered.load.load).mpr ⟨?_, ?_⟩
  · simp [load_filled]
  · exact (answered_send (s := ((s.load _).load _).record _) unanswered.load.load).mpr ⟨rfl, rfl⟩

/-- The loop of the handler of `XRTP_MSG_POLL_EVENT`. -/
theorem pollLoop_answered {dropped : Nat} (unanswered : Unanswered s) :
    AnsweredBy .pollEventReturn (pollLoop answers dropped s).2 ↔
      (s.pointers (.member .pollEvent)).isSome = true := by
  induction dropped generalizing s with
  | zero =>
    rw [pollLoop, answered_call unanswered]
    refine and_iff_left ?_
    exact (answered_send (s := s.record _) unanswered).mpr ⟨rfl, rfl⟩
  | succ dropped ih =>
    rw [pollLoop, answered_call unanswered, ih (s := s.record _) unanswered]
    exact and_self_iff

/-- The handler of `XRTP_MSG_POLL_EVENT`. -/
theorem handlePollEvent_answered (unanswered : Unanswered s) :
    AnsweredBy .pollEventReturn (handlePollEvent answers s).2 ↔
      s.loads answers (.member .pollEvent) = true := by
  unfold handlePollEvent
  refine (answered_ensure unanswered).trans (and_iff_left ?_)
  rw [pollLoop_answered unanswered.load, load_filled]
  exact .inl rfl

end Generated

section Setup

variable {answers : Answers} {s : State}

/-- Which variables hold a pointer. -/
def State.filled (s : State) (slot : Slot) : Bool := (s.pointers slot).isSome

/-- A call tests its variable. -/
theorem tests_call (slot : Slot) :
    Tests State.filled (callPointer slot) fun filled => filled slot = true where
  kept s := by
    unfold callPointer
    split
    · rfl
    · rfl
  returns s := by
    unfold callPointer
    by_cases there : (s.pointers slot).isSome = true
    · exact iff_of_true ⟨(), _, if_pos there⟩ there
    · exact iff_of_false (Program.not_returns (congrArg Prod.fst (if_neg there))) there

/-- `attempt` tests no part of the state. -/
theorem tests_attempt {γ : Type} {part : State → γ} (succeeds : Bool) :
    Tests part (attempt succeeds) fun _ => succeeds = true := by
  cases succeeds with
  | false => exact ⟨.throw, fun s => iff_of_false (Program.not_returns rfl) Bool.false_ne_true⟩
  | true => exact ⟨.pure, fun s => iff_of_true ⟨(), s, rfl⟩ rfl⟩

/-- Neither does code that calls only Vulkan. -/
theorem tests_runPart {γ : Type} {part : State → γ}
    (crashes : ∀ s, part { s with crashed := true } = part s) (piece : VulkanPart) :
    Tests part (runPart answers piece) fun _ => answers.vulkan piece = .completed := by
  unfold runPart
  cases answers.vulkan piece with
  | completed => exact ⟨.pure, fun s => iff_of_true ⟨(), s, rfl⟩ rfl⟩
  | threw => exact ⟨.throw, fun s => iff_of_false (Program.not_returns rfl) Ending.noConfusion⟩
  | crashed => exact ⟨crashes, fun s => iff_of_false (Program.not_returns rfl) Ending.noConfusion⟩

/-- `setup_vulkan_instance` returns if its variables are filled and everything it calls succeeds. -/
theorem tests_setup : Tests State.filled (setupVulkanInstance answers) fun filled =>
    (∀ slot ∈ setupSlots, filled slot = true) ∧ answers.setsUp := by
  have checked (slot : Slot) : Tests State.filled (callChecked answers slot) _ :=
    (tests_call slot).bind fun _ => tests_attempt _
  have vulkan (slot : Slot) : Tests State.filled (callVulkan answers slot) _ :=
    (tests_call slot).bind fun _ => tests_attempt _
  have part := @tests_runPart answers _ State.filled fun _ => rfl
  have whole : Tests State.filled (setupVulkanInstance answers) _ :=
    (checked _).bind fun _ => (checked _).bind fun _ => (vulkan _).bind fun _ =>
    (tests_attempt _).bind fun _ => (part _).bind fun _ => (checked _).bind fun _ =>
    (part _).bind fun _ => (vulkan _).bind fun _ => (tests_attempt _).bind fun _ => part _
  refine ⟨whole.kept, fun s => (whole.returns s).trans ?_⟩
  simp only [setupSlots, List.forall_mem_cons, List.not_mem_nil, Answers.setsUp, Slot.function,
    beq_iff_eq]
  tauto

/-- `ensure_function_loaded` tests whether its variable can be filled. -/
theorem tests_ensure (slot : Slot) : Tests (fun s => s.loads answers)
    (ensureFunctionLoaded answers slot) fun loads => loads slot = true where
  kept s := by
    unfold ensureFunctionLoaded
    split
    · rfl
    next empty =>
      split
      next granted =>
        have loads : s.loads answers slot = true := by simp [State.loads, granted]
        have loaded : s.load slot = s.cache slot := if_neg empty
        show (s.cache slot).loads answers = s.loads answers
        rw [← loaded]
        exact funext fun other => load_loads loads
      · rfl
  returns s := by
    unfold ensureFunctionLoaded State.loads
    by_cases filled : (s.pointers slot).isSome = true
    · exact iff_of_true ⟨(), s, if_pos filled⟩ (by simp [filled])
    · by_cases granted : answers.grants slot.function = true
      · exact iff_of_true ⟨(), s.cache slot, by simp [filled, granted]⟩ (by simp [granted])
      · exact iff_of_false (Program.not_returns (by simp [filled, granted]))
          (by simp [filled, granted])

/-- What `ensure_function_loaded` leaves. -/
theorem ensure_returned {slot : Slot} {s' : State}
    (ended : ensureFunctionLoaded answers slot s = (some (), s')) : s' = s.load slot := by
  unfold ensureFunctionLoaded at ended
  unfold State.load
  split at ended
  next filled =>
    rw [if_pos filled]
    exact (Prod.mk.inj ended).2.symm
  next empty =>
    rw [if_neg empty]
    split at ended
    · exact (Prod.mk.inj ended).2.symm
    · cases ended

/-- Loading a list of variables fills them. -/
theorem ensureAll_filled {slots : List Slot} {s' : State}
    (ended : forEach slots (ensureFunctionLoaded answers) s = (some (), s')) :
    ∀ slot, slot ∈ slots ∨ s.filled slot = true → s'.filled slot = true := by
  induction slots generalizing s with
  | nil =>
    cases ended
    simp
  | cons first rest ih =>
    rw [forEach, Program.andThen] at ended
    rcases one : ensureFunctionLoaded answers first s with ⟨_ | _, between⟩
    · rw [one] at ended
      cases ended
    · rw [one] at ended
      obtain rfl := ensure_returned one
      intro slot there
      apply ih ended slot
      rw [State.filled, load_filled, ← State.filled]
      rw [List.mem_cons, or_assoc] at there
      tauto

/-- When `on_instance` of a module returns. -/
def Module.starts (answers : Answers) (loads : Slot → Bool) : Module → Prop
  | .handleExchange => True
  | .vulkan => (∀ slot ∈ instanceSlots, loads slot = true) ∧ answers.setsUp

/-- `on_instance` tests what can be loaded. -/
theorem tests_onInstance (module : Module) : Tests (fun s => s.loads answers)
    (onInstance answers module) (module.starts answers) := by
  cases module with
  | handleExchange => exact .pure
  | vulkan =>
    have loop : Tests (fun s => s.loads answers)
        (forEach instanceSlots (ensureFunctionLoaded answers)) fun loads =>
          ∀ slot ∈ instanceSlots, loads slot = true := .forEach tests_ensure
    have setup := @tests_setup answers
    constructor
    · exact loop.kept.bind fun _ =>
        setup.kept.map fun filled slot => filled slot || answers.grants slot.function
    · intro s
      show Returns (do forEach instanceSlots (ensureFunctionLoaded answers)
                       setupVulkanInstance answers) s ↔ _
      rw [Program.returns_bind, Module.starts, ← loop.returns]
      have subset : ∀ slot ∈ setupSlots, slot ∈ instanceSlots := by decide
      constructor
      · rintro ⟨value, s', ended, rest⟩
        exact ⟨⟨value, s', ended⟩, ((setup.returns s').mp rest).2⟩
      · rintro ⟨⟨value, s', ended⟩, setsUp⟩
        have filled := ensureAll_filled ended
        exact ⟨value, s', ended, (setup.returns s').mpr
          ⟨fun slot member => filled slot (.inl (subset slot member)), setsUp⟩⟩

/-- All modules start if the Vulkan module does, where it is loaded. -/
theorem starts_iff {loads : Slot → Bool} {modules : List Module} :
    (∀ module ∈ modules, Module.starts answers loads module) ↔
      (.vulkan ∈ modules → (∀ slot ∈ instanceSlots, loads slot = true) ∧ answers.setsUp) := by
  constructor
  · exact fun all member => all .vulkan member
  · intro vulkan module member
    cases module with
    | handleExchange => trivial
    | vulkan => exact vulkan member

/-- `xrCreateInstance` is answered. -/
theorem createInstanceHandler_answered {payload : Payload} (unanswered : Unanswered s) :
    AnsweredBy .functionReturn (createInstanceHandler answers payload s).2 ↔
      CreateInstanceAnswerable answers payload s := by
  unfold createInstanceHandler CreateInstanceAnswerable
  refine (answered_ensure unanswered).trans (and_congr_right fun loads => ?_)
  refine (answered_attempt unanswered.load).trans (and_congr_right fun _ => ?_)
  refine (answered_dereference unanswered.load).trans (and_congr_right fun _ => ?_)
  refine (answered_call unanswered.load).trans ?_
  rw [load_filled, eq_self_iff_true, true_or, true_and]
  by_cases succeeded : (answers.result .createInstance 0).succeeded = true
  · simp only [succeeded, if_true, forall_const]
    refine answered_modify.trans ((answered_dereference ?_).trans (and_congr_right fun _ => ?_))
    · exact unanswered.load
    refine answered_modify.trans (answered_get.trans ?_)
    refine (answered_then_send ?_ ?_ rfl rfl).trans ?_
    · exact (Keeps.forEach fun module => silent_onInstance answers module).map Prod.snd
    · exact unanswered.load
    rw [(Tests.forEach tests_onInstance).returns, starts_iff]
    have loaded : (s.load (.member .createInstance)).loads answers = s.loads answers :=
      funext fun slot => load_loads loads
    show (_ ∈ (s.load _).modules →
      (∀ slot ∈ instanceSlots, (s.load _).loads answers slot = true) ∧ answers.setsUp) ↔ _
    rw [load_modules, loaded]
  · rw [if_neg succeeded]
    refine (answered_send ?_).trans ?_
    · exact unanswered.load
    simp [succeeded]

/-- `on_instance_destroy` only calls Vulkan. -/
theorem tests_onInstanceDestroy (module : Module) : Tests State.filled
    (onInstanceDestroy answers module)
    fun _ => module = .vulkan → answers.vulkan .destroyCommandPool = .completed := by
  cases module with
  | handleExchange => exact ⟨.pure, fun s => iff_of_true ⟨(), s, rfl⟩ Module.noConfusion⟩
  | vulkan =>
    have part := @tests_runPart answers _ State.filled (fun _ => rfl) .destroyCommandPool
    exact ⟨part.kept, fun s =>
      (part.returns s).trans ⟨fun completed _ => completed, fun all => all rfl⟩⟩

/-- `xrDestroyInstance` is answered. -/
theorem destroyInstanceHandler_answered {payload : Payload} (unanswered : Unanswered s) :
    AnsweredBy .functionReturn (destroyInstanceHandler answers payload s).2 ↔
      DestroyInstanceAnswerable answers payload s := by
  unfold destroyInstanceHandler DestroyInstanceAnswerable
  refine (answered_ensure unanswered).trans (and_congr_right fun loads => ?_)
  refine (answered_attempt unanswered.load).trans (and_congr_right fun _ => ?_)
  refine answered_get.trans ?_
  rw [load_savedInstance]
  by_cases saved : payload.handle = s.savedInstance
  · simp only [saved, if_true, forall_const]
    have quiet : Keeps State.replies (forEach s.modules (onInstanceDestroy answers)) :=
      (Keeps.forEach fun module => silent_onInstanceDestroy answers module).map Prod.snd
    rw [load_modules, answered_bind quiet unanswered.load]
    have loop : Tests State.filled (forEach s.modules (onInstanceDestroy answers)) _ :=
      .forEach tests_onInstanceDestroy
    have vulkan : (.vulkan ∈ s.modules → answers.vulkan .destroyCommandPool = .completed) ↔
        Returns (forEach s.modules (onInstanceDestroy answers))
          (s.load (.member .destroyInstance)) := by
      rw [loop.returns]
      constructor
      · rintro completes module member rfl
        exact completes member
      · exact fun all member => all .vulkan member rfl
    rw [vulkan]
    constructor
    · rintro ⟨value, s', ended, -⟩
      exact ⟨value, s', ended⟩
    · rintro ⟨value, s', ended⟩
      have replies := quiet (s.load (.member .destroyInstance))
      have filled := loop.kept (s.load (.member .destroyInstance))
      rw [ended] at replies filled
      have still : Unanswered s' := replies.trans unanswered.load
      have there : (s'.pointers (.member .destroyInstance)).isSome = true :=
        (congrFun filled (.member .destroyInstance)).trans (load_filled.mpr (.inl rfl))
      refine ⟨value, s', ended, (answered_call still).mpr ⟨there, answered_modify.mpr ?_⟩⟩
      exact (answered_send still).mpr ⟨rfl, rfl⟩
  · simp only [saved, if_false, false_implies, iff_true]
    exact (answered_send unanswered.load).mpr ⟨rfl, rfl⟩

end Setup

section Vulkan

variable {answers : Answers} {payload : Payload} {s : State}

/-- A call whose error throws tests its variable. -/
theorem tests_callChecked (slot : Slot) : Tests State.filled (callChecked answers slot)
    fun filled => filled slot = true ∧ (answers.result slot.function 0).succeeded = true :=
  (tests_call slot).bind fun _ => tests_attempt _

/-- It sends nothing. -/
theorem silent_callChecked (slot : Slot) : Silent (callChecked answers slot) :=
  Keeps.bind (silent_call slot) fun _ => silent_attempt _

/-- Changing the maps of the module tests nothing. -/
theorem tests_modify {change : State → State} (same : ∀ s, (change s).filled = s.filled) :
    Tests State.filled (Program.modify change) fun _ => True where
  kept := same
  returns s := iff_of_true ⟨⟨⟩, change s, rfl⟩ trivial

/-- `create_swapchain_state` returns if the images can be enumerated and created. -/
theorem tests_createSwapchainState (session : SessionState) (handle : Nat) :
    Tests State.filled (createSwapchainState answers payload session handle) fun filled =>
      filled (.member .enumerateSwapchainImages) = true ∧
      (answers.result .enumerateSwapchainImages 0).succeeded = true ∧
      (answers.result .enumerateSwapchainImages 1).succeeded = true ∧
      answers.vulkan .createImages = .completed ∧ payload.usable = true := by
  have whole : Tests State.filled (createSwapchainState answers payload session handle) _ :=
    (tests_call _).bind fun _ => (tests_attempt _).bind fun _ => (tests_call _).bind fun _ =>
    (tests_attempt _).bind fun _ => (tests_runPart (fun _ => rfl) _).bind fun _ =>
    (tests_attempt _).bind fun _ => tests_modify fun _ => rfl
  refine ⟨whole.kept, fun s => (whole.returns s).trans ?_⟩
  tauto

/-- It sends nothing. -/
theorem quiet_createSwapchainState (session : SessionState) (handle : Nat) :
    Keeps State.replies (createSwapchainState answers payload session handle) := by
  unfold createSwapchainState
  refine Keeps.bind (silent_call _).replies fun _ => ?_
  refine Keeps.bind (silent_attempt _).replies fun _ => ?_
  refine Keeps.bind (silent_call _).replies fun _ => ?_
  refine Keeps.bind (silent_attempt _).replies fun _ => ?_
  refine Keeps.bind (silent_runPart answers _).replies fun _ => ?_
  exact Keeps.bind (silent_attempt _).replies fun _ => fun _ => rfl

/-- `handle_create_swapchain` is answered. -/
theorem handleCreateSwapchain_answered (unanswered : Unanswered s) :
    AnsweredBy .createSwapchainReturn (handleCreateSwapchain answers payload s).2 ↔
      CreateSwapchainAnswerable answers payload s := by
  unfold handleCreateSwapchain CreateSwapchainAnswerable
  refine (answered_attempt unanswered).trans (and_congr_right fun _ => ?_)
  refine (answered_dereference unanswered).trans (and_congr_right fun _ => ?_)
  refine (answered_call unanswered).trans (and_congr_right fun _ => ?_)
  by_cases succeeded : answers.result .createSwapchain 0 = .success
  · simp only [succeeded, if_true, forall_const]
    refine answered_get.trans ((answered_valueOf ?_).trans ?_)
    · exact unanswered
    rw [Option.isSome_iff_exists, ← exists_and_right]
    refine exists_congr fun session => and_congr_right fun _ => ?_
    refine (answered_tests (answers.vulkan .exportImages = .completed)
      (tests_createSwapchainState session answers.handle)
      (quiet_createSwapchainState session answers.handle) ?_ fun s' still _ => ?_).trans ?_
    · exact unanswered
    · refine (answered_runPart still).trans (and_iff_left ?_)
      exact (answered_send still).mpr ⟨rfl, rfl⟩
    · simp only [and_assoc]
      rfl
  · rw [if_neg succeeded]
    refine (answered_send ?_).trans ?_
    · exact unanswered
    simp [succeeded]

/-- `handle_create_session` is answered. -/
theorem handleCreateSession_answered (unanswered : Unanswered s) :
    AnsweredBy .createSessionReturn (handleCreateSession answers payload s).2 ↔
      payload.decodes = true ∧ (s.pointers (.member .createSession)).isSome = true ∧
        (answers.result .createSession 0).succeeded = true := by
  unfold handleCreateSession
  refine (answered_attempt unanswered).trans (and_congr_right fun _ => ?_)
  refine (answered_tests True (tests_callChecked _) (silent_callChecked _).replies unanswered
    fun s' still _ => ?_).trans ?_
  · exact iff_true_intro (answered_modify.mpr ((answered_send still).mpr ⟨rfl, rfl⟩))
  · rw [and_true]
    rfl

/-- `handle_release_swapchain_image` is answered. -/
theorem handleReleaseSwapchainImage_answered (unanswered : Unanswered s) :
    AnsweredBy .releaseSwapchainImageReturn (handleReleaseSwapchainImage answers payload s).2 ↔
      ReleaseImageAnswerable answers payload s := by
  unfold handleReleaseSwapchainImage ReleaseImageAnswerable
  refine (answered_attempt unanswered).trans (and_congr_right fun _ => ?_)
  refine answered_get.trans ((answered_valueOf unanswered).trans ?_)
  rw [Option.isSome_iff_exists, ← exists_and_right]
  refine exists_congr fun swapchain => and_congr_right fun _ => ?_
  refine (answered_call unanswered).trans (and_congr_right fun _ => ?_)
  refine (answered_runPart ?_).trans (and_congr_right fun _ => ?_)
  · exact unanswered
  refine (answered_call ?_).trans (and_congr_right fun _ => ?_)
  · exact unanswered
  refine (answered_attempt ?_).trans (and_congr beq_iff_eq ?_)
  · exact unanswered
  refine (answered_runPart ?_).trans (and_congr_right fun _ => ?_)
  · exact unanswered
  refine (answered_then_send (silent_callChecked _).replies ?_ rfl rfl).trans ?_
  · exact unanswered
  · exact (tests_callChecked _).returns _

/-- `handle_get_swapchain_image_handles` is answered. -/
theorem handleGetSwapchainImageHandles_answered (unanswered : Unanswered s) :
    AnsweredBy .returnSwapchainImageHandles (handleGetSwapchainImageHandles payload s).2 ↔
      payload.decodes = true := by
  refine (answered_attempt unanswered).trans (and_iff_left ?_)
  exact (answered_send unanswered).mpr ⟨rfl, rfl⟩

/-- How `destroy_swapchain` returns. -/
theorem destroySwapchain_returned {handle : Nat} {s' : State} :
    destroySwapchain answers handle s = (some (), s') ↔
      ∃ swapchain session, s.swapchainStates handle = some swapchain ∧
        s.sessionStates swapchain.parentHandle = some session ∧
        answers.vulkan .destroyImages = .completed ∧
        (s.pointers (.member .destroySwapchain)).isSome = true ∧
        s' = (s.unlist handle swapchain.parentHandle session).record
          (.member .destroySwapchain) := by
  unfold destroySwapchain
  cases registered : s.swapchainStates handle with
  | none =>
    simp [Program.bind_apply, Program.andThen, Program.get, valueOf, registered, Program.throw]
  | some swapchain =>
    cases parent : s.sessionStates swapchain.parentHandle with
    | none =>
      simp [Program.bind_apply, Program.andThen, Program.get, valueOf, registered, parent,
        Program.throw]
    | some session =>
      simp only [Program.bind_apply, Program.andThen, Program.get, valueOf, registered, parent,
        Program.pure_apply, runPart]
      cases answers.vulkan .destroyImages with
      | completed =>
        simp only [Program.pure_apply, Program.modify]
        unfold callPointer
        by_cases filled : (s.pointers (.member .destroySwapchain)).isSome = true
        · rw [if_pos filled]
          constructor
          · intro ended
            cases ended
            exact ⟨swapchain, session, rfl, parent, trivial, filled, rfl⟩
          · rintro ⟨other, otherSession, same, parent', -, -, rfl⟩
            cases same
            cases parent.symm.trans parent'
            rfl
        · simp [filled]
      | threw => simp [Program.throw]
      | crashed => simp [crash]

/-- `destroy_swapchain` returns if it finds what it looks for and nothing it calls fails. -/
theorem destroySwapchain_returns {handle : Nat} :
    Returns (destroySwapchain answers handle) s ↔ Destroyable answers s handle := by
  constructor
  · rintro ⟨⟨⟩, s', ended⟩
    obtain ⟨swapchain, session, registered, parent, completed, filled, -⟩ :=
      destroySwapchain_returned.mp ended
    exact ⟨⟨swapchain, registered, Option.isSome_iff_exists.mpr ⟨session, parent⟩⟩, completed,
      filled⟩
  · rintro ⟨⟨swapchain, registered, known⟩, completed, filled⟩
    obtain ⟨session, parent⟩ := Option.isSome_iff_exists.mp known
    exact ⟨(), _, destroySwapchain_returned.mpr
      ⟨swapchain, session, registered, parent, completed, filled, rfl⟩⟩

/-- `destroy_swapchain` keeps what calling Vulkan and the runtime and changing the maps keep. -/
theorem keeps_destroySwapchain {γ : Type} {part : State → γ} (handle : Nat)
    (vulkan : Keeps part (runPart answers .destroyImages))
    (call : Keeps part (callPointer (.member .destroySwapchain)))
    (maps : ∀ s parent session, part (s.unlist handle parent session) = part s) :
    Keeps part (destroySwapchain answers handle) := by
  have value {α : Type} (found : Option α) : Keeps part (valueOf found) := by
    cases found with
    | none => exact .throw
    | some value => exact .pure
  unfold destroySwapchain
  refine Keeps.bind .get fun s => Keeps.bind (value _) fun swapchain => ?_
  refine Keeps.bind (value _) fun session => Keeps.bind vulkan fun _ => ?_
  exact Keeps.bind (fun s => maps s swapchain.parentHandle session) fun _ => call

/-- It sends nothing. -/
theorem quiet_destroySwapchain (handle : Nat) :
    Keeps State.replies (destroySwapchain answers handle) :=
  keeps_destroySwapchain handle (silent_runPart answers _).replies (silent_call _).replies
    fun _ _ _ => rfl

/-- `handle_destroy_swapchain` is answered. -/
theorem handleDestroySwapchain_answered (unanswered : Unanswered s) :
    AnsweredBy .destroySwapchainReturn (handleDestroySwapchain answers payload s).2 ↔
      payload.decodes = true ∧ Destroyable answers s payload.handle := by
  unfold handleDestroySwapchain
  refine (answered_attempt unanswered).trans (and_congr_right fun _ => ?_)
  refine (answered_then_send (quiet_destroySwapchain _) unanswered rfl rfl).trans ?_
  exact destroySwapchain_returns

/-- How the body of the loop of `handle_destroy_session` returns. -/
theorem destroyListed_returned {session handle : Nat} {s' : State} :
    destroyListed answers session handle s = (some (), s') ↔
      destroySwapchain answers handle s = (some (), s') ∧
        ∃ state, s'.sessionStates session = some state ∧ handle ∈ state.swapchains := by
  unfold destroyListed
  rw [Program.bind_apply, Program.andThen]
  rcases ended : destroySwapchain answers handle s with ⟨_ | _, after⟩
  · simp
  · have still : ((after.sessionStates session).any fun state => state.swapchains.contains handle) =
        true ↔ ∃ state, after.sessionStates session = some state ∧ handle ∈ state.swapchains := by
      simp [Option.any_eq_true]
    show dereference _ after = _ ↔ _
    rw [dereference]
    by_cases there : ∃ state, after.sessionStates session = some state ∧ handle ∈ state.swapchains
    · rw [if_pos (still.mpr there)]
      constructor
      · intro same
        cases same
        exact ⟨rfl, there⟩
      · exact fun both => both.1
    · rw [if_neg (mt still.mp there)]
      refine iff_of_false ?_ ?_
      · intro crashed
        cases crashed
      · rintro ⟨same, listed⟩
        cases same
        exact there listed

/-- The loop of `handle_destroy_session` sends nothing. -/
theorem quiet_destroyListed (session handle : Nat) :
    Keeps State.replies (destroyListed answers session handle) :=
  Keeps.bind (quiet_destroySwapchain handle) fun _ => Keeps.bind .get fun _ =>
    (silent_dereference _).replies

/-- It fills no variable. -/
theorem filled_destroyListed (session handle : Nat) :
    Keeps State.filled (destroyListed answers session handle) := by
  have destroys : Keeps State.filled (destroySwapchain answers handle) :=
    keeps_destroySwapchain handle (tests_runPart (fun _ => rfl) _).kept (tests_call _).kept
      fun _ _ _ => rfl
  refine Keeps.bind destroys fun _ => Keeps.bind .get fun _ => ?_
  unfold dereference
  exact .ite .pure fun _ => rfl

/-- It finds every swapchain registered, and so no swapchain twice. -/
theorem destroyListed_nodup {session : Nat} {listed : List Nat}
    (returns : Returns (forEach listed (destroyListed answers session)) s) :
    listed.Nodup ∧ ∀ handle ∈ listed, (s.swapchainStates handle).isSome = true := by
  induction listed generalizing s with
  | nil => exact ⟨List.nodup_nil, List.forall_mem_nil _⟩
  | cons first rest ih =>
    obtain ⟨value, s', ended, later⟩ := Program.returns_bind.mp returns
    obtain ⟨swapchain, state, registered, -, -, -, rfl⟩ :=
      destroySwapchain_returned.mp (destroyListed_returned.mp ended).1
    obtain ⟨nodup, found⟩ := ih later
    have apart : first ∉ rest := by
      intro again
      have none := found first again
      simp [State.record, State.unlist] at none
    refine ⟨List.nodup_cons.mpr ⟨apart, nodup⟩, List.forall_mem_cons.mpr ⟨?_, ?_⟩⟩
    · rw [registered]
      rfl
    · intro handle member
      have there := found handle member
      have other : handle ≠ first := fun same => apart (same ▸ member)
      simpa [State.record, State.unlist, other] using there

/-- Destroying one swapchain does not matter to another. -/
theorem destroyable_unlist {handle other parent : Nat} {session : SessionState} {slot : Slot}
    (apart : other ≠ handle) (known : (s.sessionStates parent).isSome = true) :
    Destroyable answers ((s.unlist handle parent session).record slot) other ↔
      Destroyable answers s other := by
  have parents (one : Nat) : (((s.unlist handle parent session).record slot).sessionStates
      one).isSome = (s.sessionStates one).isSome := by
    show (if one = parent then some _ else s.sessionStates one).isSome = _
    split
    next same => rw [same, known, Option.isSome_some]
    · rfl
  have registered : ((s.unlist handle parent session).record slot).swapchainStates other =
      s.swapchainStates other := if_neg apart
  simp only [Destroyable, registered, parents]
  rfl

/-- Neither does it matter to where that is listed. -/
theorem outside_unlist {handle other parent under : Nat} {session : SessionState} {slot : Slot}
    (apart : other ≠ handle) :
    Outside ((s.unlist handle parent session).record slot) under other ↔ Outside s under other := by
  have registered : ((s.unlist handle parent session).record slot).swapchainStates other =
      s.swapchainStates other := if_neg apart
  rw [Outside, registered, ← Outside]

/-- Where no swapchain is listed twice, the loop returns if each can be destroyed and none is listed
under its own session. -/
theorem destroyListed_returns {session : Nat} {state : SessionState} {listed : List Nat}
    (own : s.sessionStates session = some state) (distinct : state.swapchains.Nodup)
    (nodup : listed.Nodup) (subset : ∀ handle ∈ listed, handle ∈ state.swapchains) :
    Returns (forEach listed (destroyListed answers session)) s ↔
      ∀ handle ∈ listed, Destroyable answers s handle ∧ Outside s session handle := by
  induction listed generalizing s with
  | nil => exact iff_of_true ⟨(), s, rfl⟩ (List.forall_mem_nil _)
  | cons first rest ih =>
    obtain ⟨absent, nodup⟩ := List.nodup_cons.mp nodup
    have further := List.forall_mem_cons.mp subset
    -- An iteration that does not erase its element leaves the rest as it is.
    have onward {swapchain : SwapchainState} {parent : SessionState}
        (known : s.sessionStates swapchain.parentHandle = some parent)
        (outside : swapchain.parentHandle ≠ session) :
        ((s.unlist first swapchain.parentHandle parent).record
            (.member .destroySwapchain)).sessionStates session = some state ∧
          (Returns (forEach rest (destroyListed answers session))
              ((s.unlist first swapchain.parentHandle parent).record (.member .destroySwapchain)) ↔
            ∀ handle ∈ rest, Destroyable answers s handle ∧ Outside s session handle) := by
      have still : ((s.unlist first swapchain.parentHandle parent).record
          (.member .destroySwapchain)).sessionStates session = some state :=
        (if_neg outside.symm).trans own
      refine ⟨still, (ih still nodup further.2).trans ?_⟩
      refine forall₂_congr fun handle member => ?_
      have apart : handle ≠ first := fun same => absent (same ▸ member)
      rw [destroyable_unlist apart (by rw [known]; rfl), outside_unlist apart]
    show Returns (do destroyListed answers session first
                     forEach rest (destroyListed answers session)) s ↔ _
    rw [Program.returns_bind, List.forall_mem_cons]
    constructor
    · rintro ⟨value, s', ended, later⟩
      obtain ⟨destroyed, kept, found, there⟩ := destroyListed_returned.mp ended
      have destroyable := destroySwapchain_returns.mp ⟨value, s', destroyed⟩
      obtain ⟨swapchain, parent, registered, known, -, -, rfl⟩ :=
        destroySwapchain_returned.mp destroyed
      have outside : swapchain.parentHandle ≠ session := by
        intro same
        rw [same, own] at known
        cases known
        have erased : ((s.unlist first swapchain.parentHandle state).record
            (.member .destroySwapchain)).sessionStates session =
              some ⟨state.swapchains.erase first⟩ := if_pos same.symm
        rw [erased] at found
        cases found
        exact distinct.not_mem_erase there
      refine ⟨⟨destroyable, ?_⟩, (onward known outside).2.mp later⟩
      intro other same
      rw [registered] at same
      cases same
      exact outside
    · rintro ⟨⟨destroyable, outside⟩, later⟩
      obtain ⟨value, s', destroyed⟩ := destroySwapchain_returns.mpr destroyable
      have ⟨swapchain, parent, registered, known, _, _, same⟩ :=
        destroySwapchain_returned.mp destroyed
      subst same
      have ⟨own', rest'⟩ := onward known (outside swapchain registered)
      exact ⟨(), _, destroyListed_returned.mpr ⟨destroyed, state, own', further.1⟩, rest'.mpr later⟩

/-- `handle_destroy_session` is answered. -/
theorem handleDestroySession_answered (unanswered : Unanswered s) :
    AnsweredBy .destroySessionReturn (handleDestroySession answers payload s).2 ↔
      DestroySessionAnswerable answers payload s := by
  unfold handleDestroySession DestroySessionAnswerable
  refine (answered_attempt unanswered).trans (and_congr_right fun _ => ?_)
  refine answered_get.trans ((answered_valueOf unanswered).trans ?_)
  rw [← exists_and_right]
  refine exists_congr fun session => ?_
  rw [and_assoc]
  refine and_congr_right fun own => ?_
  have quiet : Keeps State.replies
      (forEach session.swapchains (destroyListed answers payload.handle)) :=
    .forEach fun handle => quiet_destroyListed _ handle
  have kept : Keeps State.filled
      (forEach session.swapchains (destroyListed answers payload.handle)) :=
    .forEach fun handle => filled_destroyListed _ handle
  have loop : Returns (forEach session.swapchains (destroyListed answers payload.handle)) s ↔
      session.swapchains.Nodup ∧ ∀ handle ∈ session.swapchains,
        Destroyable answers s handle ∧ Outside s payload.handle handle := by
    constructor
    · intro returns
      have nodup := (destroyListed_nodup returns).1
      exact ⟨nodup, (destroyListed_returns own nodup nodup fun _ => id).mp returns⟩
    · rintro ⟨nodup, each⟩
      exact (destroyListed_returns own nodup nodup fun _ => id).mpr each
  have after {value : Unit} {s' : State}
      (ended : forEach session.swapchains (destroyListed answers payload.handle) s =
        (some value, s')) : Unanswered s' ∧ s'.filled = s.filled := by
    have replies := quiet s
    have filled := kept s
    rw [ended] at replies filled
    exact ⟨replies.trans unanswered, filled⟩
  refine (answered_bind quiet unanswered).trans ?_
  rw [← loop]
  constructor
  · rintro ⟨value, s', ended, answered⟩
    obtain ⟨still, filled⟩ := after ended
    have there := ((answered_call still).mp answered).1
    exact ⟨⟨value, s', ended⟩, (congrFun filled (.member .destroySession)).symm.trans there⟩
  · rintro ⟨⟨value, s', ended⟩, there⟩
    obtain ⟨still, filled⟩ := after ended
    refine ⟨value, s', ended, (answered_call still).mpr ⟨?_, (answered_send ?_).mpr ⟨rfl, rfl⟩⟩⟩
    · exact (congrFun filled (.member .destroySession)).trans there
    · exact still

end Vulkan

section Main

variable {answers : Answers} {payload : Payload} {s : State}

/-- The handler of `XRTP_MSG_FUNCTION_CALL`. -/
theorem handleFunction_answered {function : Option Function} (unanswered : Unanswered s) :
    AnsweredBy .functionReturn (handleFunction answers payload function s).2 ↔
      FunctionAnswerable answers payload s function := by
  cases function with
  | none => exact iff_of_false (not_answered unanswered) id
  | some function =>
    by_cases create : function = .createInstance
    · subst create
      exact createInstanceHandler_answered unanswered
    · by_cases destroy : function = .destroyInstance
      · subst destroy
        exact destroyInstanceHandler_answered unanswered
      · rw [handleFunction_generated create destroy, FunctionAnswerable, if_neg create,
          if_neg destroy]
        exact handleGenerated_answered unanswered

/-- The handler of each message. -/
theorem handle_answered {request : Request} (unanswered : Unanswered s) :
    AnsweredBy request.replyHeader (handle answers payload request s).2 ↔
      HandlerAnswers answers payload s request := by
  cases request with
  | functionCall function => exact handleFunction_answered unanswered
  | synchronizationRequest => exact handleSynchronizationRequest_answered unanswered
  | pollEvent => exact handlePollEvent_answered unanswered
  | getPhysicalDevice =>
    exact iff_of_true ((answered_send unanswered).mpr ⟨rfl, rfl⟩) trivial
  | createSwapchain => exact handleCreateSwapchain_answered unanswered
  | destroySwapchain => exact handleDestroySwapchain_answered unanswered
  | createSession => exact handleCreateSession_answered unanswered
  | destroySession => exact handleDestroySession_answered unanswered
  | releaseSwapchainImage => exact handleReleaseSwapchainImage_answered unanswered
  | getSwapchainImageHandles => exact handleGetSwapchainImageHandles_answered unanswered

/-- What was sent before does not matter. -/
theorem handlerAnswers_cleared {request : Request} :
    HandlerAnswers answers payload { s with replies := [] } request ↔
      HandlerAnswers answers payload s request := by
  cases request with
  | functionCall function =>
    cases function with
    | none => exact Iff.rfl
    | some function => exact Iff.rfl
  | _ => exact Iff.rfl

end Main

/-- For every state of the server, every request, and whatever the runtime and Vulkan answer: when
dispatching the request returns, exactly one complete reply of its header has been sent, exactly if
nothing on the way of the handler to its reply throws or crashes. -/
theorem answered_once_iff (s : State) (delivery : Delivery) :
    AnsweredOnce s delivery ↔ Answerable s delivery := by
  by_cases running : s.crashed = true
  · have gone : dispatch s delivery = none := if_pos running
    exact iff_of_false (fun ⟨s', taken, _⟩ => nomatch gone.symm.trans taken)
      fun answerable => Bool.false_ne_true (answerable.running.symm.trans running)
  · by_cases registered : delivery.request.registered s.modules = true
    · have taken : dispatch s delivery = some (handle delivery.answers delivery.payload
          delivery.request { s with replies := [] }).2 := by
        rw [dispatch, if_neg running, if_pos registered]
      have cleared : Unanswered { s with replies := [] } := rfl
      have handled := @handle_answered delivery.answers delivery.payload _ delivery.request cleared
      rw [handlerAnswers_cleared] at handled
      constructor
      · rintro ⟨s', same, answered⟩
        cases taken.symm.trans same
        exact ⟨by simpa using running, registered, handled.mp answered⟩
      · intro answerable
        exact ⟨_, taken, handled.mpr answerable.answers⟩
    · have skipped : dispatch s delivery = some { s with replies := [] } := by
        rw [dispatch, if_neg running, if_neg registered]
      refine iff_of_false ?_ fun answerable => registered answerable.registered
      rintro ⟨s', taken, answered⟩
      cases skipped.symm.trans taken
      exact not_answered (s := { s with replies := [] }) rfl answered

/-- A session that the runtime refuses to create. -/
def refusedSession : Delivery where
  request := .createSession
  payload := { decodes := true }
  answers := { succeeding with result := fun _ _ => .runtimeFailure }

/-- The client gets no reply when the runtime refuses to create a session. -/
theorem refused_session_unanswered :
    ¬∀ (answers : Answers) (modules : List Module) (savedInstance : Nat)
      (deliveries : List Delivery) (s : State) (delivery : Delivery),
      (server answers modules savedInstance).run
        (server answers modules savedInstance).init deliveries = some s →
      s.crashed = false → delivery.request.registered s.modules = true →
      AnsweredOnce s delivery := by
  intro claim
  have ran : ((server succeeding [.handleExchange, .vulkan] 0).run
      (server succeeding [.handleExchange, .vulkan] 0).init [createOne]).map
        (fun s => (s.crashed, refusedSession.request.registered s.modules,
          (dispatch s refusedSession).map State.replies)) = some (false, true, some []) := by
    decide
  obtain ⟨s, ran, seen⟩ := Option.map_eq_some_iff.mp ran
  simp only [Prod.mk.injEq] at seen
  obtain ⟨running, registered, silent⟩ := seen
  obtain ⟨s', taken, reply, sent, -⟩ := claim _ _ _ _ s refusedSession ran running registered
  rw [taken, Option.map_some, sent] at silent
  cases silent

end XrTransport.Server
