import XrTransport.Vulkan.Client.RegistryConsistency

/-!
# The loader of the swapchains

The module's Vulkan functions are in one `VulkanLoader`, which the creation of a session replaces. A
swapchain keeps a reference to the loader that is held when it is stored.
-/
namespace XrTransport.Vulkan.Client.Loading

open Vulkan.Client.Registry (GraphicsBinding ImportedImage SessionCall SessionState Swapchain
  createImage createImages imageTypeOf importImage importSemaphore newSwapchain onPlatform
  recordCommandBuffer)

/-- `VulkanLoader`: what its functions were loaded for. -/
structure Loader where
  /-- The instance of the instance-level functions. -/
  vkInstance : Option Handle := none
  /-- The device of the device-level functions. -/
  device : Option Handle := none
deriving DecidableEq, Repr

/-- `init_instance`, which leaves the device-level functions null. -/
def Loader.initInstance (_ : Loader) (vkInstance : Handle) : Loader :=
  { vkInstance := some vkInstance }

/-- `init_device`. -/
def Loader.initDevice (loader : Loader) (device : Handle) : Loader :=
  { loader with device := some device }

/-- The globals of the module, with the loader. -/
structure LoaderState where
  /-- The other globals. -/
  state : Registry.State
  /-- `vk`. There is a loader from `initialize_vulkan` on, without which the creation of a session
  would crash. -/
  vk : Holder Loader
  /-- The member `vk` of every stored `SwapchainState`. -/
  loaders : XrTransport.Registry Handle Nat := ∅

namespace LoaderState

/-- `store_swapchain_state`, which is given the loader that is held, and the entry in the set of its
session. -/
def register (s : LoaderState) (session : SessionState) (swapchain : Swapchain) : LoaderState :=
  { s with
    state := s.state.register session swapchain
    loaders := s.loaders.emplace swapchain.handle s.vk.serial }

/-- The objects are destroyed and the entries erased. -/
def unregister (s : LoaderState) (session : SessionState) (swapchain : Handle)
    (state : Swapchain) : LoaderState :=
  { s with
    state := s.state.unregister session swapchain state
    loaders := s.loaders.erase swapchain }

/-- The assignment to `vk`. -/
def load (s : LoaderState) (graphicsBinding : GraphicsBinding) : LoaderState :=
  { s with
    vk := s.vk.replace
      ((s.vk.object.initInstance graphicsBinding.vkInstance).initDevice graphicsBinding.device) }

/-- `store_session_state`. -/
def store (s : LoaderState) (handle : Handle) (session : SessionState) : LoaderState :=
  { s with
    state := { s.state with sessionStates := s.state.sessionStates.emplace handle session } }

end LoaderState

/-- A part of a function that does not look at the loader. -/
def onState {α : Type} (program : Program Registry.State α) : Program LoaderState α := fun s =>
  ((program s.state).1, { s with state := (program s.state).2 })

/-- The `try` block of `xrCreateSwapchainImpl`. -/
def createSwapchainBody (vk : Nat → VkResult) (next : Option XrResult)
    (returned : Option CreateSwapchainReturn) (session : Handle)
    (createInfo : SwapchainCreateInfo) : Program LoaderState XrResult := do
  match (← Program.get).state.sessionStates.lookup session with
  | none => return next.getD .handleInvalid
  | some sessionState =>
    let message ← Program.ofOption returned
    if message.result ≠ .success then return message.result
    else
      match imageTypeOf createInfo.usageFlags with
      | none => return .validationFailure
      | some imageType =>
        let images ← onState (onPlatform (createImages vk sessionState message.numImages))
        Program.modify fun s =>
          s.register sessionState (newSwapchain createInfo message.handle session images imageType)
        return .success

/-- `xrCreateSwapchainImpl`. -/
def xrCreateSwapchain (vk : Nat → VkResult) (next : Option XrResult)
    (returned : Option CreateSwapchainReturn) (session : Handle)
    (createInfo : SwapchainCreateInfo) : LoaderState → XrResult × LoaderState :=
  (createSwapchainBody vk next returned session createInfo).caught .runtimeFailure

/-- The `try` block of `xrDestroySwapchainImpl`. -/
def destroySwapchainBody (next : Option XrResult) (returned : Bool) (swapchain : Handle) :
    Program LoaderState XrResult := do
  match (← Program.get).state.swapchainStates.lookup swapchain with
  | none => return next.getD .handleInvalid
  | some swapchainState =>
    let s ← Program.get
    let sessionState ← Program.ofOption (s.state.sessionStates.lookup swapchainState.parentHandle)
    Program.modify fun s => s.unregister sessionState swapchain swapchainState
    if returned then return .success else Program.throw

/-- `xrDestroySwapchainImpl`. -/
def xrDestroySwapchain (next : Option XrResult) (returned : Bool) (swapchain : Handle) :
    LoaderState → XrResult × LoaderState :=
  (destroySwapchainBody next returned swapchain).caught .runtimeFailure

/-- The `try` block of `xrCreateSessionImpl`. The loader is replaced before the server is asked. -/
def createSessionBody (call : SessionCall) : Program LoaderState (XrResult × Option Handle) := do
  match call.binding with
  | none => return (call.next.getD .graphicsDeviceInvalid, none)
  | some graphicsBinding =>
    let s ← Program.get
    if call.xrInstance ≠ s.state.savedXrInstance then return (.handleInvalid, none)
    else if !s.state.graphicsRequirementsCalled then
      return (.graphicsRequirementsCallMissing, none)
    else
      Program.modify fun s => s.load graphicsBinding
      let handle ← Program.ofOption call.returned
      let commandPool ← Program.ofOption call.commandPool
      Program.modify fun s =>
        s.store handle { handle, graphicsBinding, queue := call.queue, commandPool }
      return (.success, some handle)

/-- `xrCreateSessionImpl`. -/
def xrCreateSession (call : SessionCall) :
    LoaderState → (XrResult × Option Handle) × LoaderState :=
  (createSessionBody call).caught (.runtimeFailure, none)

/-- The loop of `xrDestroySessionImpl`. -/
def destroySwapchains (returned : Handle → Bool) : List Handle → LoaderState → LoaderState
  | [], s => s
  | swapchain :: rest, s =>
    destroySwapchains returned rest (xrDestroySwapchain none (returned swapchain) swapchain s).2

/-- The `try` block of `xrDestroySessionImpl`. -/
def destroySessionBody (next : Option XrResult) (swapchainReturned : Handle → Bool)
    (returned : Bool) (session : Handle) : Program LoaderState XrResult := do
  match (← Program.get).state.sessionStates.lookup session with
  | none => return next.getD .handleInvalid
  | some sessionState =>
    Program.modify (destroySwapchains swapchainReturned sessionState.swapchains)
    onState (Program.modify fun s =>
      { s with platform := s.platform.destroyCommandPool sessionState.commandPool })
    if returned then return .success else Program.throw

/-- `xrDestroySessionImpl`. -/
def xrDestroySession (next : Option XrResult) (swapchainReturned : Handle → Bool)
    (returned : Bool) (session : Handle) : LoaderState → XrResult × LoaderState :=
  (destroySessionBody next swapchainReturned returned session).caught .runtimeFailure

/-- The state after a call. -/
def perform (s : LoaderState) : Registry.Call → LoaderState
  | .createSwapchain vk next returned session createInfo =>
    (xrCreateSwapchain vk next returned session createInfo s).2
  | .destroySwapchain next returned swapchain => (xrDestroySwapchain next returned swapchain s).2
  | .createSession call => (xrCreateSession call s).2
  | .destroySession next swapchainReturned returned session =>
    (xrDestroySession next swapchainReturned returned session s).2

/-- Runs of calls. -/
def system (start : LoaderState) : System LoaderState Registry.Call where
  init := start
  step s call := some (perform s call)

/-- No session or swapchain has been created yet. -/
structure Started (s : LoaderState) : Prop where
  /-- No session. -/
  sessions : s.state.sessionStates = ∅
  /-- No swapchain. -/
  swapchains : s.state.swapchainStates = ∅
  /-- No reference. -/
  loaders : s.loaders = ∅

/-- The loader that a stored swapchain refers to has not been destroyed, and its device-level
functions were loaded for the device of the swapchain's session. -/
def LoadersAlive (s : LoaderState) : Prop :=
  ∀ handle, ∀ swapchain ∈ s.state.swapchainStates.lookup handle,
    ∃ reference ∈ s.loaders.lookup handle, ∃ loader ∈ s.vk.deref reference,
      ∃ session ∈ s.state.sessionStates.lookup swapchain.parentHandle,
        loader.device = some session.graphicsBinding.device

/-- The creation of a session comes to the assignment. -/
def Replaces (s : LoaderState) (call : SessionCall) : Prop :=
  call.binding.isSome ∧ call.xrInstance = s.state.savedXrInstance ∧
    s.state.graphicsRequirementsCalled = true

instance (s : LoaderState) (call : SessionCall) : Decidable (Replaces s call) :=
  inferInstanceAs (Decidable (_ ∧ _ ∧ _))

/-- The Vulkan calls for the images of a swapchain succeed: seven to import one and seven for what
is added to it. -/
def ImagesMade (vk : Nat → VkResult) (numImages : Nat) (platform : Platform) : Prop :=
  ∀ call < 14 * numImages, vk (platform.issued + call) = .success

instance (vk : Nat → VkResult) (numImages : Nat) (platform : Platform) :
    Decidable (ImagesMade vk numImages platform) :=
  inferInstanceAs (Decidable (∀ call < _, _))

/-- The session of the swapchain that a creation stores under a handle that is not in use: the
server has created it, it is of one kind, and the Vulkan calls for its images succeed. -/
def newParent (s : LoaderState) (vk : Nat → VkResult) (returned : Option CreateSwapchainReturn)
    (session : Handle) (createInfo : SwapchainCreateInfo) : Option SessionState := do
  let sessionState ← s.state.sessionStates.lookup session
  let message ← returned
  if message.result = .success ∧ imageTypeOf createInfo.usageFlags ≠ none ∧
      ImagesMade vk message.numImages s.state.platform ∧
      s.state.swapchainStates.lookup message.handle = none then
    some sessionState
  else none

/-- The condition on the calls: the loader is replaced only while no swapchain is stored, and a new
swapchain is stored only while the loader is the one for the device of its session. -/
def KeepsLoaders (s : LoaderState) : Registry.Call → Prop
  | .createSession call => Replaces s call → s.state.swapchainStates.keys = []
  | .createSwapchain vk _ returned session createInfo =>
    ∀ sessionState ∈ newParent s vk returned session createInfo,
      s.vk.object.device = some sessionState.graphicsBinding.device
  | .destroySwapchain .. | .destroySession .. => True

/-! ### The functions -/

/-- The two loops take fourteen calls for every image. -/
theorem createImages_takes (vk : Nat → VkResult) (session : SessionState) (numImages : Nat) :
    Platform.Takes vk (14 * numImages) (createImages vk session numImages) := by
  open Platform.Takes in
  have semaphore : Platform.Takes vk 2 (importSemaphore vk) :=
    (create .semaphore).bind fun _ _ _ _ => require.bind fun _ _ _ _ => pure _
  have imports : Platform.Takes vk 7 (importImage vk) :=
    readImageHandles.bind fun _ _ _ _ => (create .image).bind fun _ _ _ _ =>
      (create .memory).bind fun _ _ _ _ => require.bind fun _ _ _ _ =>
        semaphore.bind fun _ _ _ _ => semaphore.bind fun _ _ _ _ => pure _
  have records : Platform.Takes vk 3 (recordCommandBuffer vk session.commandPool) :=
    (allocateCommandBuffer _).bind fun _ _ _ _ => require.bind fun _ _ _ _ =>
      require.bind fun _ _ _ _ => pure _
  have creates (imported : ImportedImage) :
      Platform.Takes vk 7 (createImage vk session imported) :=
    (create .fence).bind fun _ _ _ _ => records.bind fun _ _ _ _ =>
      records.bind fun _ _ _ _ => pure _
  have counted : 14 * numImages = 7 * (List.range numImages).length + 7 * numImages := by
    rw [List.length_range, ← Nat.add_mul]
  rw [counted]
  refine (collect (List.range numImages) fun _ => imports).bind fun imported p p' ran => ?_
  -- the second loop goes over what the first one has collected
  have number := Program.collect_length ran
  rw [List.length_range] at number
  rw [← number]
  exact collect imported creates

/-- What `xrCreateSwapchainImpl` does: it stores a swapchain of a registered session, or changes
nothing but the objects of the platform. -/
theorem xrCreateSwapchain_cases (vk : Nat → VkResult) (next : Option XrResult)
    (returned : Option CreateSwapchainReturn) (session : Handle)
    (createInfo : SwapchainCreateInfo) (s : LoaderState) :
    (newParent s vk returned session createInfo = none ∧
      ∃ platform, (xrCreateSwapchain vk next returned session createInfo s).2 =
        { s with state := { s.state with platform } }) ∨
    ∃ sessionState swapchain platform,
      s.state.sessionStates.lookup session = some sessionState ∧
      swapchain.parentHandle = session ∧
      newParent s vk returned session createInfo =
        (if (s.state.swapchainStates.lookup swapchain.handle).isSome then none
          else some sessionState) ∧
      (xrCreateSwapchain vk next returned session createInfo s).2 =
        LoaderState.register { s with state := { s.state with platform } } sessionState
          swapchain := by
  simp only [xrCreateSwapchain, createSwapchainBody, Program.caught, Program.bind_apply,
    Program.andThen, Program.get, newParent]
  cases found : s.state.sessionStates.lookup session with
  | none => exact .inl ⟨rfl, s.state.platform, rfl⟩
  | some sessionState =>
    cases returned with
    | none => exact .inl ⟨rfl, s.state.platform, rfl⟩
    | some message =>
      by_cases refused : message.result ≠ .success
      · refine .inl ⟨by simp [refused], s.state.platform, ?_⟩
        simp [Program.bind_apply, Program.andThen, Program.ofOption, Program.ret, refused]
      have accepted := not_not.mp refused
      cases type : imageTypeOf createInfo.usageFlags with
      | none =>
        refine .inl ⟨by simp, s.state.platform, ?_⟩
        simp [Program.bind_apply, Program.andThen, Program.ofOption, Program.ret, accepted]
      | some imageType =>
        have returns := (createImages_takes vk sessionState message.numImages).returns
          s.state.platform
        rcases made : createImages vk sessionState message.numImages s.state.platform with
          ⟨_ | images, platform⟩
        · have failed : ¬ImagesMade vk message.numImages s.state.platform := by
            intro all
            have ended := returns.mpr all
            rw [made] at ended
            cases ended
          refine .inl ⟨by simp [failed], platform, ?_⟩
          simp [Program.bind_apply, Program.andThen, Program.ofOption, Program.ret, accepted,
            onState, onPlatform, made]
        · have all : ImagesMade vk message.numImages s.state.platform :=
            returns.mp (by rw [made]; rfl)
          refine .inr ⟨sessionState,
            newSwapchain createInfo message.handle session images imageType, platform, rfl, rfl,
            ?_, ?_⟩
          · cases used : s.state.swapchainStates.lookup message.handle with
            | none => simp [accepted, all, used, newSwapchain]
            | some old => simp [used, newSwapchain]
          simp [Program.bind_apply, Program.andThen, Program.ofOption, Program.ret, accepted,
            onState, onPlatform, made, Program.modify]

/-- What `xrDestroySwapchainImpl` does: it erases a stored swapchain, or nothing. -/
theorem xrDestroySwapchain_cases (next : Option XrResult) (returned : Bool) (swapchain : Handle)
    (s : LoaderState) :
    (xrDestroySwapchain next returned swapchain s).2 = s ∨
    ∃ state session, s.state.swapchainStates.lookup swapchain = some state ∧
      s.state.sessionStates.lookup state.parentHandle = some session ∧
      (xrDestroySwapchain next returned swapchain s).2 = s.unregister session swapchain state := by
  cases found : s.state.swapchainStates.lookup swapchain with
  | none =>
    left
    simp [xrDestroySwapchain, destroySwapchainBody, Program.caught, Program.bind_apply,
      Program.andThen, Program.get, found]
  | some state =>
    cases parent : s.state.sessionStates.lookup state.parentHandle with
    | none =>
      left
      simp [xrDestroySwapchain, destroySwapchainBody, Program.caught, Program.bind_apply,
        Program.andThen, Program.get, found, parent, Program.ofOption, Program.throw]
    | some session =>
      refine .inr ⟨state, session, rfl, parent, ?_⟩
      cases returned <;>
        simp [xrDestroySwapchain, destroySwapchainBody, Program.caught, Program.bind_apply,
          Program.andThen, Program.get, found, parent, Program.ofOption, Program.ret,
          Program.modify, Program.throw]

/-- What `xrCreateSessionImpl` does: when it comes to the assignment, it replaces the loader and
then stores a session or not; else it changes nothing. -/
theorem xrCreateSession_cases (call : SessionCall) (s : LoaderState) :
    (¬Replaces s call ∧ (xrCreateSession call s).2 = s) ∨
    (Replaces s call ∧ ∃ graphicsBinding, (xrCreateSession call s).2 = s.load graphicsBinding ∨
      ∃ handle session,
        (xrCreateSession call s).2 = (s.load graphicsBinding).store handle session) := by
  rcases call with ⟨xrInstance, _ | graphicsBinding, next, returned, queue, commandPool⟩
  · exact .inl ⟨by simp [Replaces], rfl⟩
  · by_cases same : xrInstance = s.state.savedXrInstance
    case neg =>
      refine .inl ⟨by simp [Replaces, same], ?_⟩
      simp [xrCreateSession, createSessionBody, Program.caught, Program.bind_apply,
        Program.andThen, Program.get, same]
    cases required : s.state.graphicsRequirementsCalled with
    | false =>
      refine .inl ⟨by simp [Replaces, required], ?_⟩
      simp [xrCreateSession, createSessionBody, Program.caught, Program.bind_apply,
        Program.andThen, Program.get, same, required]
    | true =>
      refine .inr ⟨⟨rfl, same, required⟩, graphicsBinding, ?_⟩
      rcases returned with _ | handle
      · left
        simp [xrCreateSession, createSessionBody, Program.caught, Program.bind_apply,
          Program.andThen, Program.get, same, required, Program.ofOption, Program.throw,
          Program.modify]
      rcases commandPool with _ | commandPool
      · left
        simp [xrCreateSession, createSessionBody, Program.caught, Program.bind_apply,
          Program.andThen, Program.get, same, required, Program.ofOption, Program.ret,
          Program.throw, Program.modify]
      · refine .inr ⟨handle, { handle, graphicsBinding, queue, commandPool }, ?_⟩
        simp [xrCreateSession, createSessionBody, Program.caught, Program.bind_apply,
          Program.andThen, Program.get, same, required, Program.ofOption, Program.ret,
          Program.modify]

/-- What `xrDestroySessionImpl` does: its loop, and then the command pool is destroyed; or nothing.
-/
theorem xrDestroySession_cases (next : Option XrResult) (swapchainReturned : Handle → Bool)
    (returned : Bool) (session : Handle) (s : LoaderState) :
    (xrDestroySession next swapchainReturned returned session s).2 = s ∨
    ∃ swapchains platform,
      let s' := destroySwapchains swapchainReturned swapchains s
      (xrDestroySession next swapchainReturned returned session s).2 =
        { s' with state := { s'.state with platform } } := by
  cases found : s.state.sessionStates.lookup session with
  | none =>
    left
    simp [xrDestroySession, destroySessionBody, Program.caught, Program.bind_apply,
      Program.andThen, Program.get, found]
  | some state =>
    refine .inr ⟨state.swapchains, (destroySwapchains swapchainReturned state.swapchains
      s).state.platform.destroyCommandPool state.commandPool, ?_⟩
    cases returned <;>
      simp [xrDestroySession, destroySessionBody, Program.caught, Program.bind_apply,
        Program.andThen, Program.get, found, Program.modify, Program.throw, onState]

/-! ### The other globals -/

/-- A part that does not look at the loader does the same without it. -/
theorem refines_onState {α : Type} (program : Program Registry.State α) :
    (onState program).Refines LoaderState.state program :=
  fun _ => rfl

/-- To the other globals, the creation of a swapchain does what it does without the loader. -/
theorem createSwapchainBody_refines (vk : Nat → VkResult) (next : Option XrResult)
    (returned : Option CreateSwapchainReturn) (session : Handle)
    (createInfo : SwapchainCreateInfo) :
    (createSwapchainBody vk next returned session createInfo).Refines LoaderState.state
      (Registry.createSwapchainBody vk next returned session createInfo) := by
  refine .get fun s => ?_
  cases s.state.sessionStates.lookup session with
  | none => exact .pure
  | some sessionState =>
    refine .bind (.ofOption returned) fun message => ?_
    by_cases refused : message.result ≠ .success
    · simp only [if_pos refused]
      exact .pure
    simp only [if_neg refused]
    cases imageTypeOf createInfo.usageFlags with
    | none => exact .pure
    | some imageType =>
      refine .bind (refines_onState _) fun images => ?_
      exact .bind (.modify fun _ => rfl) fun _ => .pure

/-- So does the destruction of one. -/
theorem destroySwapchainBody_refines (next : Option XrResult) (returned : Bool)
    (swapchain : Handle) :
    (destroySwapchainBody next returned swapchain).Refines LoaderState.state
      (Registry.destroySwapchainBody next returned swapchain) := by
  refine .get fun s => ?_
  cases s.state.swapchainStates.lookup swapchain with
  | none => exact .pure
  | some state =>
    refine .get fun s => ?_
    refine .bind (.ofOption _) fun session => ?_
    refine .bind (.modify fun _ => rfl) fun _ => ?_
    cases returned with
    | true => exact .pure
    | false => exact .throw

/-- So does the creation of a session. -/
theorem createSessionBody_refines (call : SessionCall) :
    (createSessionBody call).Refines LoaderState.state (Registry.createSessionBody call) := by
  rw [createSessionBody, Registry.createSessionBody]
  cases call.binding with
  | none => exact .pure
  | some graphicsBinding =>
    refine .get fun s => ?_
    by_cases other : call.xrInstance ≠ s.state.savedXrInstance
    · simp only [if_pos other]
      exact .pure
    simp only [if_neg other]
    cases s.state.graphicsRequirementsCalled with
    | false => exact .pure
    | true =>
      refine .hidden (fun _ => rfl) ?_
      refine .bind (.ofOption call.returned) fun handle => ?_
      refine .bind (.ofOption call.commandPool) fun commandPool => ?_
      exact .bind (.modify fun _ => rfl) fun _ => .pure

/-- So does the loop. -/
theorem destroySwapchains_state (returned : Handle → Bool) (swapchains : List Handle)
    (s : LoaderState) :
    (destroySwapchains returned swapchains s).state =
      Registry.destroySwapchains returned swapchains s.state := by
  induction swapchains generalizing s with
  | nil => rfl
  | cons swapchain rest ih =>
    have first := (destroySwapchainBody_refines none (returned swapchain) swapchain).caught
      .runtimeFailure s
    rw [destroySwapchains, Registry.destroySwapchains, ih]
    exact congrArg (fun outcome => Registry.destroySwapchains returned rest outcome.2) first

/-- So does the destruction of a session. -/
theorem destroySessionBody_refines (next : Option XrResult) (swapchainReturned : Handle → Bool)
    (returned : Bool) (session : Handle) :
    (destroySessionBody next swapchainReturned returned session).Refines LoaderState.state
      (Registry.destroySessionBody next swapchainReturned returned session) := by
  refine .get fun s => ?_
  cases s.state.sessionStates.lookup session with
  | none => exact .pure
  | some state =>
    refine .bind (.modify (destroySwapchains_state swapchainReturned state.swapchains)) fun _ => ?_
    refine .bind (refines_onState _) fun _ => ?_
    cases returned with
    | true => exact .pure
    | false => exact .throw

/-- A call does the same to the other globals with and without the loader. -/
theorem perform_state (s : LoaderState) (call : Registry.Call) :
    (perform s call).state = call.perform s.state := by
  cases call with
  | createSwapchain vk next returned session createInfo =>
    exact congrArg Prod.snd
      ((createSwapchainBody_refines vk next returned session createInfo).caught _ s)
  | destroySwapchain next returned swapchain =>
    exact congrArg Prod.snd ((destroySwapchainBody_refines next returned swapchain).caught _ s)
  | createSession call => exact congrArg Prod.snd ((createSessionBody_refines call).caught _ s)
  | destroySession next swapchainReturned returned session =>
    exact congrArg Prod.snd
      ((destroySessionBody_refines next swapchainReturned returned session).caught _ s)

/-! ### What a call changes -/

/-- The loader is the same, no swapchain is stored that was not before, and the sessions keep their
devices. -/
structure Shrinks (s s' : LoaderState) : Prop where
  /-- The loader. -/
  vk : s'.vk = s.vk
  /-- A swapchain and its reference are as before, or erased. -/
  entries : ∀ handle,
    s'.state.swapchainStates.lookup handle = none ∧ s'.loaders.lookup handle = none ∨
    s'.state.swapchainStates.lookup handle = s.state.swapchainStates.lookup handle ∧
      s'.loaders.lookup handle = s.loaders.lookup handle
  /-- The sessions. -/
  devices : ∀ handle, ∀ session ∈ s.state.sessionStates.lookup handle,
    ∃ session' ∈ s'.state.sessionStates.lookup handle,
      session'.graphicsBinding = session.graphicsBinding

namespace Shrinks

variable {s s' s'' : LoaderState}

/-- Nothing has changed but the platform. -/
theorem of_platform (s : LoaderState) (platform : Platform) :
    Shrinks s { s with state := { s.state with platform } } where
  vk := rfl
  entries _ := .inr ⟨rfl, rfl⟩
  devices _ session found := ⟨session, found, rfl⟩

/-- One call after the other. -/
theorem trans (first : Shrinks s s') (second : Shrinks s' s'') : Shrinks s s'' where
  vk := second.vk.trans first.vk
  entries handle := by
    rcases second.entries handle with erased | ⟨swapchain, loader⟩
    · exact .inl erased
    · rw [swapchain, loader]
      exact first.entries handle
  devices handle session found := by
    obtain ⟨between, looked, same⟩ := first.devices handle session found
    obtain ⟨last, looked', same'⟩ := second.devices handle between looked
    exact ⟨last, looked', same'.trans same⟩

/-- What the stored swapchains refer to stays alive. -/
theorem alive (shrinks : Shrinks s s') (alive : LoadersAlive s) : LoadersAlive s' := by
  intro handle swapchain stored
  rcases shrinks.entries handle with ⟨erased, -⟩ | ⟨same, kept⟩
  · rw [erased] at stored
    cases stored
  · rw [same] at stored
    obtain ⟨reference, refers, loader, leads, session, found, device⟩ :=
      alive handle swapchain stored
    obtain ⟨session', looked, binding⟩ := shrinks.devices _ session found
    refine ⟨reference, kept ▸ refers, loader, shrinks.vk ▸ leads, session', looked, ?_⟩
    rw [device, binding]

end Shrinks

/-- A new value for a registered session that keeps its device. -/
theorem devices_insert {sessions : XrTransport.Registry Handle SessionState} {handle : Handle}
    {old new : SessionState} (found : sessions.lookup handle = some old)
    (same : new.graphicsBinding = old.graphicsBinding) (other : Handle) (session : SessionState)
    (looked : session ∈ sessions.lookup other) :
    ∃ session' ∈ (sessions.insert handle new).lookup other,
      session'.graphicsBinding = session.graphicsBinding := by
  by_cases equal : other = handle
  · subst equal
    obtain rfl := Option.some.inj (found.symm.trans looked)
    exact ⟨new, AList.lookup_insert sessions, same⟩
  · exact ⟨session, (AList.lookup_insert_ne equal).trans looked, rfl⟩

/-- A swapchain that is erased takes its reference with it. -/
theorem xrDestroySwapchain_shrinks (next : Option XrResult) (returned : Bool)
    (swapchain : Handle) (s : LoaderState) :
    Shrinks s (xrDestroySwapchain next returned swapchain s).2 := by
  rcases xrDestroySwapchain_cases next returned swapchain s with
    unchanged | ⟨state, session, -, parent, erased⟩
  · rw [unchanged]
    exact .of_platform s s.state.platform
  · rw [erased]
    refine ⟨rfl, fun handle => ?_, devices_insert parent rfl⟩
    by_cases same : handle = swapchain
    · subst same
      exact .inl ⟨AList.lookup_erase _ _, AList.lookup_erase _ _⟩
    · exact .inr ⟨AList.lookup_erase_ne same, AList.lookup_erase_ne same⟩

/-- So do several. -/
theorem destroySwapchains_shrinks (returned : Handle → Bool) (swapchains : List Handle)
    (s : LoaderState) : Shrinks s (destroySwapchains returned swapchains s) := by
  induction swapchains generalizing s with
  | nil => exact .of_platform s s.state.platform
  | cons swapchain rest ih =>
    exact (xrDestroySwapchain_shrinks none (returned swapchain) swapchain s).trans (ih _)

/-- So do those of a session. -/
theorem xrDestroySession_shrinks (next : Option XrResult) (swapchainReturned : Handle → Bool)
    (returned : Bool) (session : Handle) (s : LoaderState) :
    Shrinks s (xrDestroySession next swapchainReturned returned session s).2 := by
  rcases xrDestroySession_cases next swapchainReturned returned session s with
    unchanged | ⟨swapchains, platform, destroyed⟩
  · rw [unchanged]
    exact .of_platform s s.state.platform
  · rw [destroyed]
    exact (destroySwapchains_shrinks swapchainReturned swapchains s).trans (.of_platform _ platform)

/-- Only stored swapchains have a reference. -/
def Linked (s : LoaderState) : Prop :=
  ∀ handle, s.state.swapchainStates.lookup handle = none → s.loaders.lookup handle = none

/-- That stays so when swapchains are erased. -/
theorem Shrinks.linked {s s' : LoaderState} (shrinks : Shrinks s s') (linked : Linked s) :
    Linked s' := by
  intro handle absent
  rcases shrinks.entries handle with ⟨-, erased⟩ | ⟨same, kept⟩
  · exact erased
  · rw [kept]
    exact linked handle (same.symm.trans absent)

section Registered

variable {s : LoaderState} {session : SessionState} {swapchain : Swapchain}

/-- A swapchain is stored with its reference. -/
theorem register_linked (linked : Linked s) : Linked (s.register session swapchain) := by
  intro handle absent
  by_cases same : handle = swapchain.handle
  · subst same
    rw [LoaderState.register, Registry.State.register,
      XrTransport.Registry.lookup_emplace_self] at absent
    cases absent
  · exact (XrTransport.Registry.lookup_emplace_ne same).trans
      (linked handle ((XrTransport.Registry.lookup_emplace_ne same).symm.trans absent))

/-- A swapchain that is stored under a handle in use changes nothing. -/
theorem register_shrinks (alive : LoadersAlive s)
    (found : s.state.sessionStates.lookup swapchain.parentHandle = some session) {old : Swapchain}
    (stored : s.state.swapchainStates.lookup swapchain.handle = some old) :
    Shrinks s (s.register session swapchain) := by
  obtain ⟨reference, refers, -⟩ := alive swapchain.handle old stored
  refine ⟨rfl, fun handle => .inr ⟨?_, ?_⟩, devices_insert found rfl⟩
  · exact congrArg (AList.lookup handle) (XrTransport.Registry.emplace_of_some stored)
  · exact congrArg (AList.lookup handle) (XrTransport.Registry.emplace_of_some refers)

/-- A new one refers to the loader that is held, which has to be the one for the device of its
session. -/
theorem register_alive_iff (linked : Linked s) (alive : LoadersAlive s)
    (found : s.state.sessionStates.lookup swapchain.parentHandle = some session)
    (fresh : s.state.swapchainStates.lookup swapchain.handle = none) :
    LoadersAlive (s.register session swapchain) ↔
      s.vk.object.device = some session.graphicsBinding.device := by
  have stored : (s.register session swapchain).state.swapchainStates =
      s.state.swapchainStates.insert swapchain.handle swapchain :=
    XrTransport.Registry.emplace_of_none fresh
  have refers : (s.register session swapchain).loaders =
      s.loaders.insert swapchain.handle s.vk.serial :=
    XrTransport.Registry.emplace_of_none (linked swapchain.handle fresh)
  have devices := devices_insert found (show (session.enlist swapchain.handle).graphicsBinding =
    session.graphicsBinding from rfl)
  constructor
  · intro alive'
    obtain ⟨reference, looked, loader, leads, session', parent, device⟩ :=
      alive' swapchain.handle swapchain (by rw [stored]; exact AList.lookup_insert _)
    rw [refers, AList.lookup_insert] at looked
    obtain rfl := Option.some.inj looked
    obtain ⟨-, rfl⟩ := Holder.deref_eq_some.mp leads
    obtain ⟨session'', again, binding⟩ := devices swapchain.parentHandle session found
    obtain rfl := Option.some.inj (Eq.trans (Eq.symm again) parent)
    rw [← binding]
    exact device
  · intro device handle other looked
    rw [stored] at looked
    by_cases same : handle = swapchain.handle
    · subst same
      rw [AList.lookup_insert] at looked
      obtain rfl := Option.some.inj looked
      obtain ⟨session', parent, binding⟩ := devices swapchain.parentHandle session found
      refine ⟨s.vk.serial, by rw [refers]; exact AList.lookup_insert _, s.vk.object,
        Holder.deref_eq_some.mpr ⟨rfl, rfl⟩, session', parent, ?_⟩
      rw [device, binding]
    · rw [AList.lookup_insert_ne same] at looked
      obtain ⟨reference, refers', loader, leads, parent, there, device⟩ := alive handle other looked
      obtain ⟨session', parent', binding⟩ := devices _ parent there
      refine ⟨reference, ?_, loader, leads, session', parent', ?_⟩
      · rw [refers]
        exact (AList.lookup_insert_ne same).trans refers'
      · rw [device, binding]

end Registered

/-- When the loader is replaced, no swapchain may be stored. -/
theorem replaced_alive_iff {s s' : LoaderState} (alive : LoadersAlive s)
    (swapchains : s'.state.swapchainStates = s.state.swapchainStates)
    (loaders : s'.loaders = s.loaders) {loader : Loader} (replaced : s'.vk = s.vk.replace loader) :
    LoadersAlive s' ↔ s.state.swapchainStates.keys = [] := by
  constructor
  · intro alive'
    rw [List.eq_nil_iff_forall_not_mem]
    intro handle stored
    obtain ⟨swapchain, looked⟩ := Option.isSome_iff_exists.mp (AList.lookup_isSome.mpr stored)
    obtain ⟨reference, refers, old, leads, -⟩ := alive handle swapchain looked
    obtain ⟨reference', refers', new, leads', -⟩ :=
      alive' handle swapchain (by rw [swapchains]; exact looked)
    rw [loaders] at refers'
    obtain rfl := Option.some.inj (Eq.trans (Eq.symm refers) refers')
    rw [replaced, Holder.deref_replace leads] at leads'
    cases leads'
  · intro none handle swapchain stored
    rw [swapchains] at stored
    have member : handle ∈ s.state.swapchainStates.keys :=
      AList.lookup_isSome.mp (Option.isSome_of_mem stored)
    rw [none] at member
    cases member

/-! ### Runs -/

/-- The creation of a swapchain. -/
theorem createSwapchain_step {s : LoaderState} (linked : Linked s) (alive : LoadersAlive s)
    (vk : Nat → VkResult) (next : Option XrResult) (returned : Option CreateSwapchainReturn)
    (session : Handle) (createInfo : SwapchainCreateInfo) :
    Linked (xrCreateSwapchain vk next returned session createInfo s).2 ∧
    (LoadersAlive (xrCreateSwapchain vk next returned session createInfo s).2 ↔
      KeepsLoaders s (.createSwapchain vk next returned session createInfo)) := by
  simp only [KeepsLoaders]
  rcases xrCreateSwapchain_cases vk next returned session createInfo s with
    ⟨nothing, platform, unchanged⟩ | ⟨sessionState, swapchain, platform, found, rfl, new, stored⟩
  · have shrinks := Shrinks.of_platform s platform
    rw [unchanged, nothing]
    refine ⟨shrinks.linked linked, iff_of_true (shrinks.alive alive) ?_⟩
    simp
  · have shrinks := Shrinks.of_platform s platform
    rw [stored, new]
    refine ⟨register_linked (shrinks.linked linked), ?_⟩
    cases used : s.state.swapchainStates.lookup swapchain.handle with
    | some old =>
      have registered := register_shrinks (shrinks.alive alive) found used
      exact iff_of_true (registered.alive (shrinks.alive alive)) (by simp)
    | none =>
      rw [register_alive_iff (shrinks.linked linked) (shrinks.alive alive) found used]
      simp

/-- The creation of a session. -/
theorem createSession_step {s : LoaderState} (linked : Linked s) (alive : LoadersAlive s)
    (call : SessionCall) :
    Linked (xrCreateSession call s).2 ∧
    (LoadersAlive (xrCreateSession call s).2 ↔ KeepsLoaders s (.createSession call)) := by
  simp only [KeepsLoaders]
  rcases xrCreateSession_cases call s with
    ⟨refused, unchanged⟩ | ⟨replaces, graphicsBinding, loaded | ⟨handle, session, stored⟩⟩
  · rw [unchanged]
    exact ⟨linked, iff_of_true alive fun replaces => absurd replaces refused⟩
  · rw [loaded, forall_prop_of_true replaces]
    exact ⟨linked, replaced_alive_iff alive rfl rfl rfl⟩
  · rw [stored, forall_prop_of_true replaces]
    exact ⟨linked, replaced_alive_iff alive rfl rfl rfl⟩

/-- Every call keeps the loaders alive exactly if it meets the condition. -/
theorem perform_step {s : LoaderState} (linked : Linked s) (alive : LoadersAlive s)
    (call : Registry.Call) :
    Linked (perform s call) ∧ (LoadersAlive (perform s call) ↔ KeepsLoaders s call) := by
  cases call with
  | createSwapchain vk next returned session createInfo =>
    exact createSwapchain_step linked alive vk next returned session createInfo
  | destroySwapchain next returned swapchain =>
    have shrinks := xrDestroySwapchain_shrinks next returned swapchain s
    exact ⟨shrinks.linked linked, iff_of_true (shrinks.alive alive) trivial⟩
  | createSession call => exact createSession_step linked alive call
  | destroySession next swapchainReturned returned session =>
    have shrinks := xrDestroySession_shrinks next swapchainReturned returned session s
    exact ⟨shrinks.linked linked, iff_of_true (shrinks.alive alive) trivial⟩

/-- At first no swapchain is stored and none has a reference. -/
theorem Started.linked {s : LoaderState} (started : Started s) : Linked s := by
  intro handle _
  rw [started.loaders]
  rfl

/-- Nor does one refer to a loader. -/
theorem Started.alive {s : LoaderState} (started : Started s) : LoadersAlive s := by
  intro handle swapchain stored
  rw [started.swapchains] at stored
  cases stored

/-- In every run the loaders that the stored swapchains refer to are alive, and the ones for their
devices, exactly if every call meets the condition. -/
theorem loaders_alive_iff {start s : LoaderState} (started : Started start)
    {calls : List Registry.Call} (ran : (system start).run start calls = some s) :
    ((system start).Along (fun s _ => LoadersAlive s) start calls ∧ LoadersAlive s) ↔
      (system start).Along KeepsLoaders start calls := by
  refine @System.along_holds_iff_of_invariant _ _ (system start) Linked LoadersAlive KeepsLoaders
    ?_ ?_ start s calls started.linked started.alive ran
  · intro s call s' linked alive taken
    obtain rfl := Option.some.inj taken
    exact (perform_step linked alive call).1
  · intro s call s' linked alive taken
    obtain rfl := Option.some.inj taken
    exact (perform_step linked alive call).2

instance (s : LoaderState) : ∀ call, Decidable (KeepsLoaders s call)
  | .createSession call => inferInstanceAs (Decidable (Replaces s call → _))
  | .createSwapchain .. => inferInstanceAs (Decidable (∀ sessionState ∈ newParent s .., _))
  | .destroySwapchain .. | .destroySession .. => inferInstanceAs (Decidable True)

/-- A module whose instance is 1, with the loader that `initialize_vulkan` makes. -/
def freshModule : LoaderState where
  state := { savedXrInstance := 1, graphicsRequirementsCalled := true }
  vk := { object := {} }

/-- A swapchain of one image, under the handle 8, in the session 7. -/
def swapchainEight : Registry.Call :=
  .createSwapchain (fun _ => .success) none (some ⟨.success, 8, 1⟩) 7 ⟨0, 1, 64, 64⟩

/-- A session whose device is 4, its swapchain, and another session when that is gone. -/
def oneAfterTheOther : List Registry.Call :=
  [Registry.sessionSeven 6, swapchainEight, .destroySwapchain none true 8,
    Registry.sessionSeven 9]

/-- The condition is met, and the loaders are alive all along. -/
theorem oneAfterTheOther_alive :
    ∃ s, (system freshModule).run freshModule oneAfterTheOther = some s ∧
      (system freshModule).Along (fun s _ => LoadersAlive s) freshModule oneAfterTheOther ∧
      LoadersAlive s := by
  refine ⟨_, rfl, ?_⟩
  exact (loaders_alive_iff ⟨rfl, rfl, rfl⟩ rfl).mpr (by decide +kernel)

/-- A session that is created while the server does not answer. -/
def unansweredSession : Registry.Call :=
  .createSession {
    xrInstance := 1
    binding := some ⟨2, 3, 4, 0, 0⟩
    next := none
    returned := none
    queue := 5
    commandPool := none }

/-- What is left when that is tried while a swapchain of another session is stored. -/
def abandoned : LoaderState :=
  [Registry.sessionSeven 6, swapchainEight, unansweredSession].foldl perform freshModule

/-- A session is created while a swapchain of another one is stored, and the server does not even
answer: the loader that the swapchain refers to is gone. -/
theorem second_session_destroys_loader :
    ¬∀ (start s : LoaderState) (calls : List Registry.Call), Started start →
      (system start).run start calls = some s → LoadersAlive s := by
  intro always
  have alive : LoadersAlive abandoned := always freshModule abandoned
    [Registry.sessionSeven 6, swapchainEight, unansweredSession] ⟨rfl, rfl, rfl⟩ rfl
  have stored : (abandoned.state.swapchainStates.lookup 8).isSome := by decide +kernel
  obtain ⟨swapchain, looked⟩ := Option.isSome_iff_exists.mp stored
  obtain ⟨reference, refers, loader, leads, -⟩ := alive 8 swapchain looked
  have first : abandoned.loaders.lookup 8 = some 1 := by decide +kernel
  have second : abandoned.vk.serial = 2 := by decide +kernel
  rw [Option.mem_def, first, Option.some_inj] at refers
  rw [Option.mem_def, Holder.deref_eq_some, second] at leads
  omega

end XrTransport.Vulkan.Client.Loading
