import XrTransport.Foundation.LateBinding
import XrTransport.Server.Handlers

/-!
# What requests do with cached functions

The variables that `ensure_function_loaded` fills are cells that are bound late: to a pointer for
the instance the loader holds when they are first needed. Which variables a request fills and calls
through, and what it does to instances, is fixed by its payload, the answers of the runtime and of
Vulkan, the modules that are loaded, and the tables of the server. `Request.plan` lists it for every
request, and `handle_carries` says that the handlers do that.
-/
namespace XrTransport.Server

open LateBinding
open Program (forEach modify)

/-- What changes which pointers are offered. -/
inductive Change where
  /-- The runtime creates an instance. -/
  | create (handle : { handle : Nat // handle ≠ 0 })
  /-- The loader gets an instance to ask for. -/
  | adopt (handle : { handle : Nat // handle ≠ 0 })
  /-- The runtime destroys an instance. -/
  | destroy (handle : Nat)
deriving DecidableEq, Repr

/-- What `xrGetInstanceProcAddr` is asked with and what it finds. -/
structure Surroundings where
  /-- The runtime. -/
  runtime : Runtime := {}
  /-- `FunctionLoader::loader_instance`. -/
  loader : Nat := 0

/-- A variable is bound to what `xrGetInstanceProcAddr` returns for `loader_instance`. -/
def pointerRules : Rules Slot Surroundings Change Pointer Call where
  move env
    | .create handle => { env with runtime := env.runtime.create handle }
    | .adopt handle => { env with loader := handle }
    | .destroy handle => { env with runtime := env.runtime.destroy handle }
  offer env := ⟨env.runtime.serial env.loader⟩
  note slot pointer env := ⟨slot, pointer, env.runtime.live⟩

/-- The variables and the calls of the server. -/
def State.store (s : State) : Store Slot Surroundings Pointer Call where
  env := ⟨s.runtime, s.loaderInstance⟩
  cells := s.pointers
  notes := s.calls

/-- What else the handlers look at. -/
structure Tables where
  /-- `Server::modules`. -/
  modules : List Module
  /-- `Server::saved_instance`. -/
  savedInstance : Nat
  /-- `session_states`. -/
  sessionStates : Nat → Option SessionState
  /-- `swapchain_states`. -/
  swapchainStates : Nat → Option SwapchainState

/-- The tables of the server. -/
def State.tables (s : State) : Tables where
  modules := s.modules
  savedInstance := s.savedInstance
  sessionStates := s.sessionStates
  swapchainStates := s.swapchainStates

/-- What happens to the variables. -/
abbrev History := List (Event Slot Change)

/-- What a handler does with the variables. -/
abbrev Plan := List (Stage Slot Change)

/-! ## The plans -/

section Plans

variable (answers : Answers) (payload : Payload) (tables : Tables)

/-- A call through a variable. -/
abbrev uses (slot : Slot) : Plan := [.use slot]

/-- A condition under which the handler goes on. -/
abbrev needs (holds : Bool) : Plan := [.need holds]

/-- A change of the instances or of the loader. -/
abbrev changes (what : Change) : Plan := [.change what]

/-- `ensure_function_loaded`. -/
abbrev loads (slot : Slot) : Plan := [.load slot (answers.grants slot.function)]

/-- Code that calls only Vulkan. -/
abbrev runs (part : VulkanPart) : Plan := needs (answers.vulkan part = .completed)

/-- A call whose error throws. -/
def checks (slot : Slot) : Plan := uses slot ++ needs (answers.result slot.function 0).succeeded

/-- A call of a creating function that reports a Vulkan result too. -/
def checksVulkan (slot : Slot) : Plan :=
  uses slot ++ needs (answers.vkResult slot.function == .success)

/-- `setup_vulkan_instance`. -/
def setupPlan : Plan :=
  checks answers (.member .getSystem) ++
  checks answers (.pfn .getVulkanGraphicsRequirements2) ++
  checksVulkan answers (.pfn .createVulkanInstance) ++
  needs (answers.result .createVulkanInstance 0).succeeded ++
  runs answers .initInstance ++
  checks answers (.pfn .getVulkanGraphicsDevice2) ++
  runs answers .selectQueueFamily ++
  checksVulkan answers (.pfn .createVulkanDevice) ++
  needs (answers.result .createVulkanDevice 0 == .success) ++
  runs answers .initDevice

/-- `on_instance` of a module. -/
def onInstancePlan : Module → Plan
  | .handleExchange => []
  | .vulkan => instanceSlots.flatMap (loads answers) ++ setupPlan answers

/-- `on_instance_destroy` of a module. -/
def onInstanceDestroyPlan : Module → Plan
  | .handleExchange => []
  | .vulkan => runs answers .destroyCommandPool

/-- `Server::create_instance_handler`. -/
def createInstancePlan : Plan :=
  loads answers (.member .createInstance) ++ needs payload.decodes ++
  needs payload.createInfo ++ uses (.member .createInstance) ++
  if (answers.result .createInstance 0).succeeded then
    changes (.create answers.created) ++ needs payload.instanceOut ++
    changes (.adopt answers.created) ++ tables.modules.flatMap (onInstancePlan answers)
  else []

/-- `Server::destroy_instance_handler`. -/
def destroyInstancePlan : Plan :=
  loads answers (.member .destroyInstance) ++ needs payload.decodes ++
  if payload.handle = tables.savedInstance then
    tables.modules.flatMap (onInstanceDestroyPlan answers) ++ uses (.member .destroyInstance) ++
    if (answers.result .destroyInstance 0).succeeded then changes (.destroy payload.handle)
    else []
  else []

/-- The generated `handle_` of a function. -/
def generatedPlan (function : Function) : Plan :=
  loads answers (.member function) ++ needs payload.decodes ++ uses (.member function) ++
  needs answers.serializes

/-- `FunctionDispatch::handle_function`. -/
def functionPlan : Option Function → Plan
  | none => needs false
  | some .createInstance => createInstancePlan answers payload tables
  | some .destroyInstance => destroyInstancePlan answers payload tables
  | some function => generatedPlan answers payload function

/-- The handler of `XRTP_MSG_SYNCHRONIZATION_REQUEST`. -/
def synchronizationPlan : Plan :=
  loads answers .fromPlatformTime ++ loads answers .toPlatformTime ++
  needs payload.decodes ++ uses .fromPlatformTime

/-- The handler of `XRTP_MSG_POLL_EVENT`. -/
def pollEventPlan : Plan :=
  loads answers (.member .pollEvent) ++
  List.replicate (answers.dropped + 1) (.use (.member .pollEvent))

/-- `create_swapchain_state`. -/
def createSwapchainStatePlan : Plan :=
  uses (.member .enumerateSwapchainImages) ++
  needs (answers.result .enumerateSwapchainImages 0).succeeded ++
  uses (.member .enumerateSwapchainImages) ++
  needs (answers.result .enumerateSwapchainImages 1).succeeded ++
  runs answers .createImages ++ needs payload.usable

/-- `handle_create_swapchain`. -/
def createSwapchainPlan : Plan :=
  needs payload.decodes ++ needs payload.createInfo ++ uses (.member .createSwapchain) ++
  if answers.result .createSwapchain 0 = .success then
    needs (tables.sessionStates payload.handle).isSome ++
    createSwapchainStatePlan answers payload ++ runs answers .exportImages
  else []

/-- The tables after the maps of `destroy_swapchain` have been changed, if the swapchain and its
session are there. -/
def Tables.unlist (handle : Nat) : Option Tables :=
  (tables.swapchainStates handle).bind fun swapchain =>
    (tables.sessionStates swapchain.parentHandle).map fun session =>
      { tables with
        swapchainStates := fun other =>
          if other = handle then none else tables.swapchainStates other
        sessionStates := fun other =>
          if other = swapchain.parentHandle then some ⟨session.swapchains.erase handle⟩
          else tables.sessionStates other }

/-- `destroy_swapchain`. -/
def destroySwapchainPlan (handle : Nat) : Plan :=
  needs (tables.unlist handle).isSome ++ runs answers .destroyImages ++
  uses (.member .destroySwapchain)

/-- The loop of `handle_destroy_session`, with the tables of each round. -/
def destroyListedPlan (session : Nat) : Tables → List Nat → Plan
  | _, [] => []
  | tables, handle :: rest =>
    destroySwapchainPlan answers tables handle ++
    match tables.unlist handle with
    | none => []
    | some after =>
      needs ((after.sessionStates session).any fun state => state.swapchains.contains handle) ++
      destroyListedPlan session after rest

/-- `handle_destroy_session`. -/
def destroySessionPlan : Plan :=
  needs payload.decodes ++
  match tables.sessionStates payload.handle with
  | none => needs false
  | some session =>
    destroyListedPlan answers payload.handle tables session.swapchains ++
    uses (.member .destroySession)

/-- `handle_release_swapchain_image`. -/
def releaseSwapchainImagePlan : Plan :=
  needs payload.decodes ++ needs (tables.swapchainStates payload.handle).isSome ++
  uses (.member .acquireSwapchainImage) ++ runs answers .recordCopy ++
  uses (.member .waitSwapchainImage) ++
  needs (answers.result .waitSwapchainImage 0 == .success) ++ runs answers .submitCopy ++
  checks answers (.member .releaseSwapchainImage)

/-- What a request does with the variables, up to the first stage that fails. -/
def Request.plan : Request → Plan
  | .functionCall function => functionPlan answers payload tables function
  | .synchronizationRequest => synchronizationPlan answers payload
  | .pollEvent => pollEventPlan answers
  | .getPhysicalDevice => []
  | .createSwapchain => createSwapchainPlan answers payload tables
  | .destroySwapchain =>
    needs payload.decodes ++ destroySwapchainPlan answers tables payload.handle
  | .createSession => needs payload.decodes ++ checks answers (.member .createSession)
  | .destroySession => destroySessionPlan answers payload tables
  | .releaseSwapchainImage => releaseSwapchainImagePlan answers payload tables
  | .getSwapchainImageHandles => needs payload.decodes

end Plans

/-! ## The handlers follow the plans -/

/-- Code does what its plan says, with the tables it starts from and those it leaves. -/
abbrev Does (before after : Tables) (plan : Plan) (handler : Handler Unit) : Prop :=
  Follows pointerRules State.store State.tables before after plan handler

/-- A handler does what its plan says, with the tables it starts from. -/
abbrev Carries (before : Tables) (plan : Plan) (handler : Handler Unit) : Prop :=
  Performs pointerRules State.store State.tables before plan handler

section Steps

variable {answers : Answers} {tables : Tables}

/-- A variable that is filled is bound. -/
theorem store_cache (s : State) (slot : Slot) :
    (s.cache slot).store = pointerRules.replay s.store [.bind slot] := by
  have cells : (s.cache slot).pointers =
      Function.update s.pointers slot (some s.fetched) := by
    funext other
    rw [Function.update_apply]
    rfl
  rw [State.store, cells]
  rfl

/-- `ensure_function_loaded` fills a variable that is empty, or throws. -/
theorem ensure_does (slot : Slot) :
    Does tables tables (loads answers slot) (ensureFunctionLoaded answers slot) := by
  apply Follows.stage
  · intro s _
    rw [ensureFunctionLoaded, Stage.events]
    split
    next filled => simp [State.store, Store.bound, filled, Rules.replay]
    next empty =>
      split
      next granted =>
        rw [if_pos ⟨by simpa [State.store, Store.bound] using empty, granted⟩]
        exact store_cache s slot
      next refused => simp [refused, Rules.replay]
  · intro s start
    have filled : s.store.bound slot = (s.pointers slot).isSome := rfl
    rw [ensureFunctionLoaded, Stage.passes, filled]
    cases (s.pointers slot).isSome with
    | true => exact ⟨rfl, start⟩
    | false =>
      cases answers.grants slot.function with
      | true => exact ⟨rfl, start⟩
      | false => rfl

/-- A call through a variable needs it to be filled. -/
theorem call_does (slot : Slot) : Does tables tables (uses slot) (callPointer slot) := by
  apply Follows.stage
  · intro s _
    rw [callPointer]
    split
    · rfl
    · rfl
  · intro s start
    have filled : s.store.bound slot = (s.pointers slot).isSome := rfl
    rw [callPointer, Stage.passes, filled]
    cases (s.pointers slot).isSome with
    | true => exact ⟨rfl, start⟩
    | false => rfl

/-- What does nothing to the variables and goes on under a condition. -/
theorem need_does {holds : Bool} {handler : Handler Unit}
    (goes : holds = true → ∀ s, handler s = (some (), s))
    (ends : holds = false → ∀ s, (handler s).1 = none ∧ (handler s).2.store = s.store) :
    Does tables tables (needs holds) handler := by
  apply Follows.stage
  · intro s _
    cases holds with
    | true => rw [goes rfl s]; rfl
    | false => exact (ends rfl s).2
  · intro s start
    cases holds with
    | true => exact ⟨by rw [goes rfl s], by rw [goes rfl s]; exact start⟩
    | false => exact (ends rfl s).1

/-- `attempt`. -/
theorem attempt_does (succeeds : Bool) :
    Does tables tables (needs succeeds) (attempt succeeds) := by
  apply need_does
  · rintro rfl s
    rfl
  · rintro rfl s
    exact ⟨rfl, rfl⟩

/-- `dereference`. -/
theorem dereference_does (present : Bool) :
    Does tables tables (needs present) (dereference present) := by
  apply need_does
  · rintro rfl s
    rfl
  · rintro rfl s
    exact ⟨rfl, rfl⟩

/-- Code that calls only Vulkan. -/
theorem runPart_does (part : VulkanPart) :
    Does tables tables (runs answers part) (runPart answers part) := by
  apply need_does
  · intro completed s
    rw [runPart, of_decide_eq_true completed]
    rfl
  · intro fails s
    have other := of_decide_eq_false fails
    cases ended : answers.vulkan part with
    | completed => exact absurd ended other
    | threw =>
      rw [runPart, ended]
      exact ⟨rfl, rfl⟩
    | crashed =>
      rw [runPart, ended]
      exact ⟨rfl, rfl⟩

/-- Sending a reply. -/
theorem send_does (reply : Reply) : Does tables tables [] (send reply) :=
  Follows.silent fun _ start => ⟨rfl, rfl, start⟩

/-- Throwing. -/
theorem throw_does {after : Tables} {plan : Plan} :
    Does tables after (.need false :: plan) Program.throw :=
  Follows.fails fun _ _ => ⟨rfl, rfl⟩

/-- What is needed is there. -/
theorem goes_does : Does tables tables (needs true) (pure () : Handler Unit) :=
  need_does (fun _ _ => rfl) fun fails => absurd fails (by decide)

/-- Throwing ends a handler. -/
theorem throw_carries {plan : Plan} : Carries tables (.need false :: plan) Program.throw := by
  have thrown : Does tables tables (.need false :: plan) Program.throw := throw_does
  exact thrown.performs

/-- A change of the runtime or of the loader. -/
theorem change_does {after : Tables} (what : Change) {change : State → State}
    (moves : ∀ s, (change s).store = pointerRules.after s.store (.change what))
    (leaves : ∀ s, s.tables = tables → (change s).tables = after) :
    Does tables after (changes what) (modify change) :=
  Follows.stage (fun s _ => moves s) fun s start => ⟨rfl, leaves s start⟩

/-- A change of the tables. -/
theorem tables_does {after : Tables} {change : State → State}
    (still : ∀ s, (change s).store = s.store)
    (leaves : ∀ s, s.tables = tables → (change s).tables = after) :
    Does tables after [] (modify change) :=
  Follows.silent fun s start => ⟨still s, rfl, leaves s start⟩

/-- A call whose error throws. -/
theorem callChecked_does (slot : Slot) :
    Does tables tables (checks answers slot) (callChecked answers slot) :=
  (call_does slot).seq (attempt_does _)

/-- A call that reports a Vulkan result. -/
theorem callVulkan_does (slot : Slot) :
    Does tables tables (checksVulkan answers slot) (callVulkan answers slot) :=
  (call_does slot).seq (attempt_does _)

end Steps

section Handlers

variable {answers : Answers} {payload : Payload} {tables : Tables}

/-- `setup_vulkan_instance`. -/
theorem setupVulkanInstance_does :
    Does tables tables (setupPlan answers) (setupVulkanInstance answers) := by
  simp only [setupPlan, List.append_assoc]
  refine (callChecked_does _).seq ((callChecked_does _).seq ((callVulkan_does _).seq ?_))
  refine (attempt_does _).seq ((runPart_does _).seq ((callChecked_does _).seq ?_))
  refine (runPart_does _).seq ((callVulkan_does _).seq ((attempt_does _).seq ?_))
  exact runPart_does _

/-- `on_instance` of a module. -/
theorem onInstance_does (module : Module) :
    Does tables tables (onInstancePlan answers module) (onInstance answers module) := by
  cases module with
  | handleExchange => exact Follows.silent fun _ start => ⟨rfl, rfl, start⟩
  | vulkan =>
    exact (Follows.forEach fun slot => ensure_does slot).seq setupVulkanInstance_does

/-- `on_instance_destroy` of a module. -/
theorem onInstanceDestroy_does (module : Module) :
    Does tables tables (onInstanceDestroyPlan answers module)
      (onInstanceDestroy answers module) := by
  cases module with
  | handleExchange => exact Follows.silent fun _ start => ⟨rfl, rfl, start⟩
  | vulkan => exact runPart_does _

/-- `create_instance_handler`. -/
theorem createInstanceHandler_carries :
    Carries tables (createInstancePlan answers payload tables)
      (createInstanceHandler answers payload) := by
  unfold createInstancePlan createInstanceHandler
  simp only [List.append_assoc]
  refine (ensure_does _).andThen ((attempt_does _).andThen ?_)
  refine (dereference_does _).andThen ((call_does _).andThen ?_)
  split
  · let saved : Tables := { tables with savedInstance := answers.created }
    have created : Does tables tables (changes (.create answers.created))
        (modify fun s => { s with runtime := s.runtime.create answers.created }) :=
      change_does _ (fun _ => rfl) fun _ same => same
    have adopted : Does tables saved (changes (.adopt answers.created))
        (modify fun s => { s with
          savedInstance := answers.created, loaderInstance := answers.created }) := by
      refine change_does _ (fun _ => rfl) ?_
      rintro s rfl
      rfl
    refine created.andThen ((dereference_does _).andThen (adopted.andThen ?_))
    refine Performs.get fun s start => ?_
    have same : tables.modules = s.modules := (congrArg Tables.modules start).symm
    rw [same]
    have loop : Does saved saved (s.modules.flatMap (onInstancePlan answers))
        (forEach s.modules (onInstance answers)) :=
      Follows.forEach fun module => onInstance_does module
    exact (loop.then_silent (send_does _)).performs
  · exact (send_does _).performs

/-- `destroy_instance_handler`. -/
theorem destroyInstanceHandler_carries :
    Carries tables (destroyInstancePlan answers payload tables)
      (destroyInstanceHandler answers payload) := by
  unfold destroyInstancePlan destroyInstanceHandler
  simp only [List.append_assoc]
  refine (ensure_does _).andThen ((attempt_does _).andThen ?_)
  refine Performs.get fun s start => ?_
  have modules : tables.modules = s.modules := (congrArg Tables.modules start).symm
  have instance_ : tables.savedInstance = s.savedInstance :=
    (congrArg Tables.savedInstance start).symm
  rw [modules, instance_]
  split
  · refine (Follows.forEach fun module => onInstanceDestroy_does module).andThen ?_
    refine (call_does _).andThen ?_
    have cleared : Does tables { tables with savedInstance := 0 }
        (if (answers.result .destroyInstance 0).succeeded then
          changes (.destroy payload.handle) else [])
        (modify fun s => { s with
          runtime := if (answers.result .destroyInstance 0).succeeded
            then s.runtime.destroy payload.handle else s.runtime
          savedInstance := 0 }) := by
      cases (answers.result .destroyInstance 0).succeeded with
      | true =>
        refine change_does _ (fun _ => rfl) ?_
        rintro s rfl
        rfl
      | false =>
        refine tables_does (fun _ => rfl) ?_
        rintro s rfl
        rfl
    exact (cleared.then_silent (send_does _)).performs
  · exact (send_does _).performs

/-- The generated `handle_` of a function. -/
theorem handleGenerated_does (function : Function) :
    Does tables tables (generatedPlan answers payload function)
      (handleGenerated answers function payload) := by
  unfold generatedPlan handleGenerated
  simp only [List.append_assoc]
  refine (ensure_does _).seq ((attempt_does _).seq ((call_does _).seq ?_))
  exact (send_does _).silent_then (attempt_does _)

/-- The functions other than the two with handlers of their own have generated handlers. -/
theorem handleFunction_generated {function : Function} (create : function ≠ .createInstance)
    (destroy : function ≠ .destroyInstance) :
    handleFunction answers payload (some function) = handleGenerated answers function payload := by
  cases function <;> first | rfl | contradiction

/-- `FunctionDispatch::handle_function`. -/
theorem handleFunction_carries (function : Option Function) :
    Carries tables (functionPlan answers payload tables function)
      (handleFunction answers payload function) := by
  cases function with
  | none => exact throw_carries
  | some function =>
    by_cases create : function = .createInstance
    · subst create
      exact createInstanceHandler_carries
    · by_cases destroy : function = .destroyInstance
      · subst destroy
        exact destroyInstanceHandler_carries
      · have plan : functionPlan answers payload tables (some function) =
            generatedPlan answers payload function := by
          cases function <;> first | rfl | contradiction
        rw [plan, handleFunction_generated create destroy]
        exact (handleGenerated_does function).performs

/-- The handler of `XRTP_MSG_SYNCHRONIZATION_REQUEST`. -/
theorem handleSynchronizationRequest_does :
    Does tables tables (synchronizationPlan answers payload)
      (handleSynchronizationRequest answers payload) := by
  unfold synchronizationPlan handleSynchronizationRequest
  simp only [List.append_assoc]
  refine (ensure_does _).seq ((ensure_does _).seq ((attempt_does _).seq ?_))
  exact (call_does _).then_silent (send_does _)

/-- The loop of the handler of `XRTP_MSG_POLL_EVENT`. -/
theorem pollLoop_does (dropped : Nat) :
    Does tables tables (List.replicate (dropped + 1) (.use (.member .pollEvent)))
      (pollLoop answers dropped) := by
  induction dropped with
  | zero => exact (call_does _).then_silent (send_does _)
  | succ dropped ih => exact (call_does _).seq ih

/-- The handler of `XRTP_MSG_POLL_EVENT`. -/
theorem handlePollEvent_does :
    Does tables tables (pollEventPlan answers) (handlePollEvent answers) :=
  (ensure_does _).seq (pollLoop_does _)

/-- `std::optional::value`. -/
theorem valueOf_carries {α : Type} {value : Option α} {plan : Plan} {next : α → Handler Unit}
    (right : ∀ found, value = some found → Carries tables plan (next found)) :
    Carries tables (needs value.isSome ++ plan) (valueOf value >>= next) := by
  cases value with
  | none => exact throw_carries
  | some found =>
    have there : Does tables tables (needs true) (pure ()) := goes_does
    exact there.andThen (right found rfl)

/-- The tables after `create_swapchain_state`. -/
def Tables.list (tables : Tables) (session : SessionState) (parent handle : Nat) : Tables :=
  { tables with
    swapchainStates := fun other =>
      if other = handle then (tables.swapchainStates handle).or (some ⟨parent⟩)
      else tables.swapchainStates other
    sessionStates := fun other =>
      if other = parent then some ⟨session.swapchains.insert handle⟩
      else tables.sessionStates other }

/-- `create_swapchain_state`. -/
theorem createSwapchainState_does (session : SessionState) (handle : Nat) :
    Does tables (tables.list session payload.handle handle)
      (createSwapchainStatePlan answers payload)
      (createSwapchainState answers payload session handle) := by
  unfold createSwapchainStatePlan createSwapchainState
  simp only [List.append_assoc]
  refine (call_does _).seq ((attempt_does _).seq ((call_does _).seq ((attempt_does _).seq ?_)))
  refine (runPart_does _).seq ((attempt_does _).then_silent (tables_does (fun _ => rfl) ?_))
  rintro s rfl
  rfl

/-- `handle_create_swapchain`. -/
theorem handleCreateSwapchain_carries :
    Carries tables (createSwapchainPlan answers payload tables)
      (handleCreateSwapchain answers payload) := by
  unfold createSwapchainPlan handleCreateSwapchain
  simp only [List.append_assoc]
  refine (attempt_does _).andThen ((dereference_does _).andThen ((call_does _).andThen ?_))
  split
  · refine Performs.get fun s start => ?_
    have sessions : tables.sessionStates = s.sessionStates :=
      (congrArg Tables.sessionStates start).symm
    rw [sessions]
    refine valueOf_carries fun session _ => (createSwapchainState_does session _).andThen ?_
    exact ((runPart_does _).then_silent (send_does _)).performs
  · exact (send_does _).performs

/-- `destroy_swapchain` throws when it does not find the swapchain or its session. -/
theorem destroySwapchain_missing {s : State} {handle : Nat}
    (missing : s.tables.unlist handle = none) :
    destroySwapchain answers handle s = (none, s) := by
  show (valueOf (s.swapchainStates handle) >>= fun swapchain =>
    valueOf (s.sessionStates swapchain.parentHandle) >>= fun session => _) s = _
  cases registered : s.swapchainStates handle with
  | none => rfl
  | some swapchain =>
    cases known : s.sessionStates swapchain.parentHandle with
    | none =>
      show (valueOf (s.sessionStates swapchain.parentHandle) >>= fun session => _) s = _
      rw [known]
      rfl
    | some session => simp [Tables.unlist, State.tables, registered, known] at missing

/-- `destroy_swapchain`. -/
theorem destroySwapchain_does (handle : Nat) :
    Does tables ((tables.unlist handle).getD tables) (destroySwapchainPlan answers tables handle)
      (destroySwapchain answers handle) := by
  cases found : tables.unlist handle with
  | none =>
    rw [destroySwapchainPlan, found]
    refine Follows.fails fun s start => ?_
    rw [destroySwapchain_missing (by rw [start, found])]
    exact ⟨rfl, rfl⟩
  | some after =>
    unfold destroySwapchainPlan destroySwapchain
    refine Follows.get fun s start => ?_
    subst start
    have ⟨swapchain, registered, rest⟩ := Option.bind_eq_some_iff.mp found
    obtain ⟨session, known, rfl⟩ := Option.map_eq_some_iff.mp rest
    have registered : s.swapchainStates handle = some swapchain := registered
    have known : s.sessionStates swapchain.parentHandle = some session := known
    rw [found, registered]
    show Does _ _ _ (valueOf (s.sessionStates swapchain.parentHandle) >>= fun session => _)
    rw [known]
    have erased : Does s.tables { s.tables with
        swapchainStates := fun other => if other = handle then none else s.swapchainStates other
        sessionStates := fun other =>
          if other = swapchain.parentHandle then some ⟨session.swapchains.erase handle⟩
          else s.sessionStates other } []
        (modify fun s => { s with
          swapchainStates := fun other => if other = handle then none else s.swapchainStates other
          sessionStates := fun other =>
            if other = swapchain.parentHandle then some ⟨session.swapchains.erase handle⟩
            else s.sessionStates other }) := by
      refine tables_does (fun _ => rfl) fun now same => ?_
      have swapchains : now.swapchainStates = s.swapchainStates :=
        congrArg Tables.swapchainStates same
      have sessions : now.sessionStates = s.sessionStates := congrArg Tables.sessionStates same
      have modules : now.modules = s.modules := congrArg Tables.modules same
      have saved : now.savedInstance = s.savedInstance := congrArg Tables.savedInstance same
      simp only [State.tables, swapchains, sessions, modules, saved]
    have there : Does s.tables s.tables (needs true) (pure ()) := goes_does
    simp only [List.append_assoc]
    exact there.seq ((runPart_does _).seq (erased.silent_then (call_does _)))

/-- The loop of `handle_destroy_session`. -/
theorem destroyListed_does (answers : Answers) (session : Nat) (tables : Tables)
    (listed : List Nat) :
    ∃ after, Does tables after (destroyListedPlan answers session tables listed)
      (forEach listed (destroyListed answers session)) := by
  induction listed generalizing tables with
  | nil => exact ⟨tables, Follows.silent fun _ start => ⟨rfl, rfl, start⟩⟩
  | cons handle rest ih =>
    rw [destroyListedPlan]
    cases found : tables.unlist handle with
    | none =>
      refine ⟨tables, ?_⟩
      rw [destroySwapchainPlan, found]
      refine Follows.fails fun s start => ?_
      have ended : forEach (handle :: rest) (destroyListed answers session) s = (none, s) := by
        have missing : destroySwapchain answers handle s = (none, s) :=
          destroySwapchain_missing (by rw [start, found])
        show (do destroyListed answers session handle
                 forEach rest (destroyListed answers session)) s = _
        simp [destroyListed, Program.bind_apply, Program.andThen, missing]
      rw [ended]
      exact ⟨rfl, rfl⟩
    | some after =>
      obtain ⟨last, further⟩ := ih after
      have first : Does tables ((tables.unlist handle).getD tables)
          (destroySwapchainPlan answers tables handle) (destroySwapchain answers handle) :=
        destroySwapchain_does handle
      rw [found, Option.getD_some] at first
      have looks : Does after after
          (needs ((after.sessionStates session).any fun state =>
            state.swapchains.contains handle))
          (Program.get >>= fun s => dereference
            ((s.sessionStates session).any fun state => state.swapchains.contains handle)) := by
        refine Follows.get fun s start => ?_
        subst start
        exact dereference_does _
      have both := (first.seq looks).seq further
      rw [List.append_assoc] at both
      exact ⟨last, both⟩

/-- `handle_destroy_session`. -/
theorem handleDestroySession_carries :
    Carries tables (destroySessionPlan answers payload tables)
      (handleDestroySession answers payload) := by
  unfold destroySessionPlan handleDestroySession
  refine (attempt_does _).andThen (Performs.get fun s start => ?_)
  subst start
  show Performs _ _ _ _ (match s.sessionStates payload.handle with | none => _ | some session => _)
    (valueOf (s.sessionStates payload.handle) >>= fun session => _)
  cases s.sessionStates payload.handle with
  | none => exact throw_carries
  | some session =>
    obtain ⟨after, loop⟩ := destroyListed_does answers payload.handle s.tables
      session.swapchains
    exact loop.andThen ((call_does _).then_silent (send_does _)).performs

/-- `handle_release_swapchain_image`. -/
theorem handleReleaseSwapchainImage_carries :
    Carries tables (releaseSwapchainImagePlan answers payload tables)
      (handleReleaseSwapchainImage answers payload) := by
  unfold releaseSwapchainImagePlan handleReleaseSwapchainImage
  simp only [List.append_assoc]
  refine (attempt_does _).andThen (Performs.get fun s start => ?_)
  subst start
  refine valueOf_carries fun _ _ => (call_does _).andThen ((runPart_does _).andThen ?_)
  refine (call_does _).andThen ((attempt_does _).andThen ((runPart_does _).andThen ?_))
  exact ((callChecked_does _).then_silent (send_does _)).performs

/-- Every handler does what the plan of its request says. -/
theorem handle_carries (request : Request) :
    Carries tables (request.plan answers payload tables) (handle answers payload request) := by
  cases request with
  | functionCall function => exact handleFunction_carries function
  | synchronizationRequest => exact handleSynchronizationRequest_does.performs
  | pollEvent => exact handlePollEvent_does.performs
  | getPhysicalDevice => exact (send_does _).performs
  | createSwapchain => exact handleCreateSwapchain_carries
  | destroySwapchain =>
    have destroyed : Does tables _ (destroySwapchainPlan answers tables payload.handle)
        (destroySwapchain answers payload.handle) := destroySwapchain_does payload.handle
    exact (attempt_does _).andThen (destroyed.then_silent (send_does _)).performs
  | createSession =>
    have created : Does tables { tables with
        sessionStates := fun other =>
          if other = answers.handle then (tables.sessionStates other).or (some ⟨[]⟩)
          else tables.sessionStates other } []
        (modify fun s => { s with
          sessionStates := fun other =>
            if other = answers.handle then (s.sessionStates other).or (some ⟨[]⟩)
            else s.sessionStates other }) := by
      refine tables_does (fun _ => rfl) ?_
      rintro s rfl
      rfl
    have checked : Does tables tables (checks answers (.member .createSession))
        (callChecked answers (.member .createSession)) := callChecked_does _
    have rest := checked.then_silent (created.then_silent (send_does
      { header := .createSessionReturn, handle := answers.handle }))
    exact (attempt_does _).andThen rest.performs
  | destroySession => exact handleDestroySession_carries
  | releaseSwapchainImage => exact handleReleaseSwapchainImage_carries
  | getSwapchainImageHandles => exact ((attempt_does _).then_silent (send_does _)).performs

end Handlers

end XrTransport.Server
