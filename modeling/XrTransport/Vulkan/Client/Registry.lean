import XrTransport.Vulkan.Client.SwapchainState
import XrTransport.Vulkan.Objects
import XrTransport.Vulkan.Swapchains

/-!
# The client's sessions and swapchains

`session_state.cpp` keeps the client's sessions and swapchains in two maps; the functions of
`vulkan_core.cpp` that create and destroy them exchange a message with the server and make Vulkan
calls in between. Both maps are filled with `emplace`, which keeps an entry that is there already.
-/
namespace XrTransport.Vulkan.Client.Registry

/-- `XrGraphicsBindingVulkan2KHR`. -/
structure GraphicsBinding where
  /-- `instance`. -/
  vkInstance : Handle
  /-- `physicalDevice`. -/
  physicalDevice : Handle
  /-- `device`. -/
  device : Handle
  /-- `queueFamilyIndex`. -/
  queueFamilyIndex : Nat
  /-- `queueIndex`. -/
  queueIndex : Nat
deriving DecidableEq, Repr

/-- `SessionState`. -/
structure SessionState where
  /-- `handle`. -/
  handle : Handle
  /-- `graphics_binding`. -/
  graphicsBinding : GraphicsBinding
  /-- `queue`. -/
  queue : Handle
  /-- `command_pool`. -/
  commandPool : Handle
  /-- `swapchains`. -/
  swapchains : List Handle := []
deriving DecidableEq, Repr

/-- `ImportedImage`, with the handles that it was imported from. -/
structure ImportedImage where
  /-- `image`. -/
  image : Handle
  /-- `memory`. -/
  memory : Handle
  /-- `rendering_done`. -/
  renderingDone : Handle
  /-- `copying_done`. -/
  copyingDone : Handle
  /-- What `read_image_handles` returned for it. -/
  handles : ImageHandles
deriving DecidableEq, Repr

/-- `SwapchainImage`, with the image, the memory and the handles they were imported from. -/
structure OwnedImage extends SwapchainImage where
  /-- `image.image`. -/
  image : Handle
  /-- `memory`. -/
  memory : Handle
  /-- What `read_image_handles` returned for it. -/
  handles : ImageHandles
deriving DecidableEq, Repr

/-- `SwapchainState`. -/
structure Swapchain where
  /-- `handle`. -/
  handle : Handle
  /-- `parent_handle`. -/
  parentHandle : Handle
  /-- `images`. -/
  images : List OwnedImage
  /-- `width`. -/
  width : Nat
  /-- `height`. -/
  height : Nat
  /-- `is_static`. -/
  isStatic : Bool
  /-- `image_type`. -/
  imageType : ImageType
deriving DecidableEq, Repr

/-- The globals of the module. -/
structure State where
  /-- `session_states`. -/
  sessionStates : Registry Handle SessionState := ∅
  /-- `swapchain_states`. -/
  swapchainStates : Registry Handle Swapchain := ∅
  /-- `saved_xr_instance`. -/
  savedXrInstance : Handle
  /-- `graphics_requirements_called`. -/
  graphicsRequirementsCalled : Bool
  /-- Vulkan and the handle exchange. -/
  platform : Platform := {}

/-- The usage flags name one kind of image, which is not both. -/
def imageTypeOf (usageFlags : Nat) : Option ImageType :=
  let bothMask := colorAttachmentBit ||| depthStencilAttachmentBit
  if usageFlags &&& bothMask = bothMask then none
  else if usageFlags &&& colorAttachmentBit ≠ 0 then some .color
  else if usageFlags &&& depthStencilAttachmentBit ≠ 0 then some .depthStencil
  else none

/-- The state of a new swapchain. -/
def newSwapchain (createInfo : SwapchainCreateInfo) (handle session : Handle)
    (images : List OwnedImage) (imageType : ImageType) : Swapchain where
  handle := handle
  parentHandle := session
  images := images
  width := createInfo.width
  height := createInfo.height
  isStatic := createInfo.createFlags &&& staticImageBit ≠ 0
  imageType := imageType

/-- A part of a function that only calls Vulkan and the handle exchange. -/
def onPlatform {α : Type} (program : Program Platform α) : Program State α := fun s =>
  ((program s.platform).1, { s with platform := (program s.platform).2 })

/-- `import_semaphore`. -/
def importSemaphore (vk : Nat → VkResult) : Program Platform Handle := do
  let semaphore ← Platform.create vk .semaphore
  Platform.require vk
  return semaphore

/-- The body of the loop of `import_images`. -/
def importImage (vk : Nat → VkResult) : Program Platform ImportedImage := do
  let handles ← Platform.readImageHandles
  let image ← Platform.create vk .image
  let memory ← Platform.create vk .memory
  Platform.require vk -- BindImageMemory
  let renderingDone ← importSemaphore vk
  let copyingDone ← importSemaphore vk
  return { image, memory, renderingDone, copyingDone, handles }

/-- `import_images`. -/
def importImages (vk : Nat → VkResult) (numImages : Nat) : Program Platform (List ImportedImage) :=
  Program.collect (List.range numImages) fun _ => importImage vk

/-- `record_acquire_command_buffer` and `record_release_command_buffer`, which differ in the barrier
between the two calls. -/
def recordCommandBuffer (vk : Nat → VkResult) (commandPool : Handle) :
    Program Platform Handle := do
  let commandBuffer ← Platform.allocateCommandBuffer vk commandPool
  Platform.require vk -- BeginCommandBuffer
  Platform.require vk -- EndCommandBuffer
  return commandBuffer

/-- `create_image`. -/
def createImage (vk : Nat → VkResult) (session : SessionState) (imported : ImportedImage) :
    Program Platform OwnedImage := do
  let copyingDoneFence ← Platform.create vk .fence
  let acquireCommandBuffer ← recordCommandBuffer vk session.commandPool
  let releaseCommandBuffer ← recordCommandBuffer vk session.commandPool
  return {
    image := imported.image
    memory := imported.memory
    renderingDone := imported.renderingDone
    copyingDone := imported.copyingDone
    handles := imported.handles
    copyingDoneFence, acquireCommandBuffer, releaseCommandBuffer }

/-- The two loops of `xrCreateSwapchainImpl`. -/
def createImages (vk : Nat → VkResult) (session : SessionState) (numImages : Nat) :
    Program Platform (List OwnedImage) := do
  let importedImages ← importImages vk numImages
  Program.collect importedImages (createImage vk session)

/-- Add a swapchain to the ones of a session. -/
def SessionState.enlist (session : SessionState) (swapchain : Handle) : SessionState :=
  { session with swapchains := session.swapchains.insert swapchain }

/-- Remove it. -/
def SessionState.delist (session : SessionState) (swapchain : Handle) : SessionState :=
  { session with swapchains := session.swapchains.filter (· ≠ swapchain) }

/-- `store_swapchain_state` and the entry in the set of its session. -/
def State.register (s : State) (session : SessionState) (swapchain : Swapchain) : State :=
  { s with
    swapchainStates := s.swapchainStates.emplace swapchain.handle swapchain
    sessionStates :=
      s.sessionStates.insert swapchain.parentHandle (session.enlist swapchain.handle) }

/-- The `try` block of `xrCreateSwapchainImpl`. `next` is what the function below this layer
returns, if there is one, and `returned` what arrives from the server, if the exchange does not
throw. -/
def createSwapchainBody (vk : Nat → VkResult) (next : Option XrResult)
    (returned : Option CreateSwapchainReturn) (session : Handle)
    (createInfo : SwapchainCreateInfo) : Program State XrResult := do
  match (← Program.get).sessionStates.lookup session with
  | none => return next.getD .handleInvalid
  | some sessionState =>
    let message ← Program.ofOption returned
    if message.result ≠ .success then return message.result
    else
      match imageTypeOf createInfo.usageFlags with
      | none => return .validationFailure
      | some imageType =>
        let images ← onPlatform (createImages vk sessionState message.numImages)
        Program.modify fun s =>
          s.register sessionState (newSwapchain createInfo message.handle session images imageType)
        return .success

/-- `xrCreateSwapchainImpl`. -/
def xrCreateSwapchain (vk : Nat → VkResult) (next : Option XrResult)
    (returned : Option CreateSwapchainReturn) (session : Handle)
    (createInfo : SwapchainCreateInfo) : State → XrResult × State :=
  (createSwapchainBody vk next returned session createInfo).caught .runtimeFailure

/-- The objects of an image, in the order in which they are destroyed. -/
def OwnedImage.objects (image : OwnedImage) : List (Kind × Nat) :=
  [(.commandBuffer, image.acquireCommandBuffer), (.commandBuffer, image.releaseCommandBuffer),
    (.image, image.image), (.memory, image.memory), (.semaphore, image.renderingDone),
    (.semaphore, image.copyingDone), (.fence, image.copyingDoneFence)]

/-- The objects of a swapchain. -/
def Swapchain.objects (swapchain : Swapchain) : List (Kind × Nat) :=
  swapchain.images.flatMap OwnedImage.objects

/-- The objects are destroyed and the entries erased, in the set of the session and in the map. -/
def State.unregister (s : State) (session : SessionState) (swapchain : Handle)
    (state : Swapchain) : State :=
  { s with
    platform := s.platform.destroy state.objects
    sessionStates := s.sessionStates.insert state.parentHandle (session.delist swapchain)
    swapchainStates := s.swapchainStates.erase swapchain }

/-- The `try` block of `xrDestroySwapchainImpl`. Whether the reply arrives is `returned`. -/
def destroySwapchainBody (next : Option XrResult) (returned : Bool) (swapchain : Handle) :
    Program State XrResult := do
  match (← Program.get).swapchainStates.lookup swapchain with
  | none => return next.getD .handleInvalid
  | some swapchainState =>
    let s ← Program.get
    let sessionState ← Program.ofOption (s.sessionStates.lookup swapchainState.parentHandle)
    Program.modify fun s => s.unregister sessionState swapchain swapchainState
    if returned then return .success else Program.throw

/-- `xrDestroySwapchainImpl`. -/
def xrDestroySwapchain (next : Option XrResult) (returned : Bool) (swapchain : Handle) :
    State → XrResult × State :=
  (destroySwapchainBody next returned swapchain).caught .runtimeFailure

/-- What `xrCreateSessionImpl` is called with and what its calls answer. -/
structure SessionCall where
  /-- `instance`. -/
  xrInstance : Handle
  /-- The graphics binding that `find_graphics_binding` finds in the create info. -/
  binding : Option GraphicsBinding
  /-- What the function below this layer returns, if there is one. -/
  next : Option XrResult
  /-- The session that arrives from the server, if the exchange does not throw. -/
  returned : Option Handle
  /-- What `GetDeviceQueue` returns. -/
  queue : Handle
  /-- What `CreateCommandPool` returns, if it succeeds. -/
  commandPool : Option Handle
deriving DecidableEq, Repr

/-- The `try` block of `xrCreateSessionImpl`, with the session that is returned. -/
def createSessionBody (call : SessionCall) : Program State (XrResult × Option Handle) := do
  match call.binding with
  | none => return (call.next.getD .graphicsDeviceInvalid, none)
  | some graphicsBinding =>
    let s ← Program.get
    if call.xrInstance ≠ s.savedXrInstance then return (.handleInvalid, none)
    else if !s.graphicsRequirementsCalled then return (.graphicsRequirementsCallMissing, none)
    else
      let handle ← Program.ofOption call.returned
      let commandPool ← Program.ofOption call.commandPool
      Program.modify fun s => { s with
        sessionStates := s.sessionStates.emplace handle
          { handle, graphicsBinding, queue := call.queue, commandPool } }
      return (.success, some handle)

/-- `xrCreateSessionImpl`. -/
def xrCreateSession (call : SessionCall) : State → (XrResult × Option Handle) × State :=
  (createSessionBody call).caught (.runtimeFailure, none)

/-- The loop of `xrDestroySessionImpl`, which ignores what the calls return. Whether the reply for a
swapchain arrives is `returned`. -/
def destroySwapchains (returned : Handle → Bool) : List Handle → State → State
  | [], s => s
  | swapchain :: rest, s =>
    destroySwapchains returned rest (xrDestroySwapchain none (returned swapchain) swapchain s).2

/-- The `try` block of `xrDestroySessionImpl`. Whether the replies arrive, for the swapchains and
for the session, is `swapchainReturned` and `returned`. -/
def destroySessionBody (next : Option XrResult) (swapchainReturned : Handle → Bool)
    (returned : Bool) (session : Handle) : Program State XrResult := do
  match (← Program.get).sessionStates.lookup session with
  | none => return next.getD .handleInvalid
  | some sessionState =>
    Program.modify (destroySwapchains swapchainReturned sessionState.swapchains)
    Program.modify fun s =>
      { s with platform := s.platform.destroyCommandPool sessionState.commandPool }
    if returned then return .success else Program.throw

/-- `xrDestroySessionImpl`. -/
def xrDestroySession (next : Option XrResult) (swapchainReturned : Handle → Bool)
    (returned : Bool) (session : Handle) : State → XrResult × State :=
  (destroySessionBody next swapchainReturned returned session).caught .runtimeFailure

/-- What `xrCreateSwapchainImpl` does. -/
theorem xrCreateSwapchain_eq (vk : Nat → VkResult) (next : Option XrResult)
    (returned : Option CreateSwapchainReturn) (session : Handle)
    (createInfo : SwapchainCreateInfo) (s : State) :
    xrCreateSwapchain vk next returned session createInfo s =
      match s.sessionStates.lookup session, returned with
      | none, _ => (next.getD .handleInvalid, s)
      | some _, none => (.runtimeFailure, s)
      | some sessionState, some message =>
        if message.result ≠ .success then (message.result, s)
        else
          match imageTypeOf createInfo.usageFlags with
          | none => (.validationFailure, s)
          | some imageType =>
            match createImages vk sessionState message.numImages s.platform with
            | (none, platform) => (.runtimeFailure, { s with platform })
            | (some images, platform) =>
              (.success, State.register { s with platform } sessionState
                (newSwapchain createInfo message.handle session images imageType)) := by
  cases found : s.sessionStates.lookup session with
  | none =>
    simp [xrCreateSwapchain, createSwapchainBody, Program.caught, Program.bind_apply,
      Program.andThen, Program.get, found]
  | some sessionState =>
    cases returned with
    | none =>
      simp [xrCreateSwapchain, createSwapchainBody, Program.caught, Program.bind_apply,
        Program.andThen, Program.get, found, Program.ofOption, Program.throw]
    | some message =>
      by_cases refused : message.result = .success
      case neg =>
        simp [xrCreateSwapchain, createSwapchainBody, Program.caught, Program.bind_apply,
          Program.andThen, Program.get, found, Program.ofOption, Program.ret, refused]
      cases type : imageTypeOf createInfo.usageFlags with
      | none =>
        simp [xrCreateSwapchain, createSwapchainBody, Program.caught, Program.bind_apply,
          Program.andThen, Program.get, found, Program.ofOption, Program.ret, refused, type]
      | some imageType =>
        rcases made : createImages vk sessionState message.numImages s.platform with
          ⟨_ | images, platform⟩ <;>
          simp [xrCreateSwapchain, createSwapchainBody, Program.caught, Program.bind_apply,
            Program.andThen, Program.get, found, Program.ofOption, Program.ret, refused, type,
            onPlatform, made, Program.modify]

/-- What `xrDestroySwapchainImpl` does. -/
theorem xrDestroySwapchain_eq (next : Option XrResult) (returned : Bool) (swapchain : Handle)
    (s : State) :
    xrDestroySwapchain next returned swapchain s =
      match s.swapchainStates.lookup swapchain with
      | none => (next.getD .handleInvalid, s)
      | some state =>
        match s.sessionStates.lookup state.parentHandle with
        | none => (.runtimeFailure, s)
        | some session =>
          (if returned then .success else .runtimeFailure,
            s.unregister session swapchain state) := by
  cases found : s.swapchainStates.lookup swapchain with
  | none =>
    simp [xrDestroySwapchain, destroySwapchainBody, Program.caught, Program.bind_apply,
      Program.andThen, Program.get, found]
  | some state =>
    cases parent : s.sessionStates.lookup state.parentHandle with
    | none =>
      simp [xrDestroySwapchain, destroySwapchainBody, Program.caught, Program.bind_apply,
        Program.andThen, Program.get, found, parent, Program.ofOption, Program.throw]
    | some session =>
      cases returned <;>
        simp [xrDestroySwapchain, destroySwapchainBody, Program.caught, Program.bind_apply,
          Program.andThen, Program.get, found, parent, Program.ofOption, Program.ret,
          Program.modify, Program.throw]

/-- What `xrCreateSessionImpl` does. -/
theorem xrCreateSession_eq (call : SessionCall) (s : State) :
    xrCreateSession call s =
      match call.binding with
      | none => ((call.next.getD .graphicsDeviceInvalid, none), s)
      | some graphicsBinding =>
        if call.xrInstance ≠ s.savedXrInstance then ((.handleInvalid, none), s)
        else if !s.graphicsRequirementsCalled then ((.graphicsRequirementsCallMissing, none), s)
        else
          match call.returned, call.commandPool with
          | some handle, some commandPool =>
            ((.success, some handle), { s with
              sessionStates := s.sessionStates.emplace handle
                { handle, graphicsBinding, queue := call.queue, commandPool } })
          | _, _ => ((.runtimeFailure, none), s) := by
  rcases call with ⟨xrInstance, _ | graphicsBinding, next, returned, queue, commandPool⟩
  · simp [xrCreateSession, createSessionBody, Program.caught]
  · by_cases same : xrInstance = s.savedXrInstance
    case neg =>
      simp [xrCreateSession, createSessionBody, Program.caught, Program.bind_apply,
        Program.andThen, Program.get, same]
    cases required : s.graphicsRequirementsCalled with
    | false =>
      simp [xrCreateSession, createSessionBody, Program.caught, Program.bind_apply,
        Program.andThen, Program.get, same, required]
    | true =>
      cases returned <;> cases commandPool <;>
        simp [xrCreateSession, createSessionBody, Program.caught, Program.bind_apply,
          Program.andThen, Program.get, same, required, Program.ofOption, Program.ret,
          Program.throw, Program.modify]

/-- What `xrDestroySessionImpl` does. -/
theorem xrDestroySession_eq (next : Option XrResult) (swapchainReturned : Handle → Bool)
    (returned : Bool) (session : Handle) (s : State) :
    xrDestroySession next swapchainReturned returned session s =
      match s.sessionStates.lookup session with
      | none => (next.getD .handleInvalid, s)
      | some state =>
        let s' := destroySwapchains swapchainReturned state.swapchains s
        (if returned then .success else .runtimeFailure,
          { s' with platform := s'.platform.destroyCommandPool state.commandPool }) := by
  cases found : s.sessionStates.lookup session with
  | none =>
    simp [xrDestroySession, destroySessionBody, Program.caught, Program.bind_apply,
      Program.andThen, Program.get, found]
  | some state =>
    cases returned <;>
      simp [xrDestroySession, destroySessionBody, Program.caught, Program.bind_apply,
        Program.andThen, Program.get, found, Program.modify, Program.throw]

end XrTransport.Vulkan.Client.Registry
