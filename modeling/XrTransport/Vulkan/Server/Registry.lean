import XrTransport.Vulkan.Objects
import XrTransport.Vulkan.Server.ReleaseImage
import XrTransport.Vulkan.Swapchains

/-!
# The server's sessions and swapchains

The handlers of `vulkan_server_module.cpp` that create and destroy sessions and swapchains. They
keep the same two maps as the client and call the runtime. An exception in a handler is swallowed by
the transport, so that no reply is sent.
-/
namespace XrTransport.Vulkan.Server.Registry

open Vulkan.Client (Handle)

/-- `SessionState`. -/
structure SessionState where
  /-- `handle`. -/
  handle : Handle
  /-- `swapchains`. -/
  swapchains : List Handle := []
deriving DecidableEq, Repr

/-- `SharedImage`, with the image and the memory. -/
structure OwnedImage extends SharedImage where
  /-- `image`. -/
  image : Handle
  /-- `shared_memory`. -/
  sharedMemory : Handle
deriving DecidableEq, Repr

/-- `SwapchainState`. -/
structure Swapchain where
  /-- `handle`. -/
  handle : Handle
  /-- `parent_handle`. -/
  parentHandle : Handle
  /-- `shared_images`. -/
  sharedImages : List OwnedImage
  /-- `runtime_images`. -/
  runtimeImages : List Handle
  /-- `image_type`. -/
  imageType : ImageType
  /-- `width`. -/
  width : Nat
  /-- `height`. -/
  height : Nat
deriving DecidableEq, Repr

/-- The fields of the module, and the runtime. -/
structure State where
  /-- `session_states`. -/
  sessionStates : Registry Handle SessionState := ∅
  /-- `swapchain_states`. -/
  swapchainStates : Registry Handle Swapchain := ∅
  /-- `saved_vk_command_pool`. -/
  savedVkCommandPool : Handle := 0
  /-- Vulkan and the handle exchange. -/
  platform : Platform := {}
  /-- The swapchains that are alive in the runtime, with their sessions. -/
  alive : List (Handle × Handle) := []
  /-- A loop has gone on from an element that its body has erased, which is undefined. -/
  undefined : Bool := false

/-- What the runtime and Vulkan answer to the creation of a swapchain. -/
structure CreateAnswers where
  /-- Vulkan, by the number of the call. -/
  vk : Nat → VkResult
  /-- `xrCreateSwapchain`: the result and the handle. -/
  created : XrResult × Handle
  /-- The first `xrEnumerateSwapchainImages`, which asks for the number of images. -/
  counted : XrResult
  /-- The second: the result and the images. -/
  enumerated : XrResult × List Handle
  /-- The property flags of the memory types of the physical device. -/
  memoryTypes : List Nat
  /-- `memoryTypeBits` of the requirements of an image, by its index. -/
  memoryTypeBits : Nat → Nat

/-- `XR_SWAPCHAIN_CREATE_PROTECTED_CONTENT_BIT`. -/
def protectedContentBit : Nat := 1

/-- `VK_MEMORY_PROPERTY_DEVICE_LOCAL_BIT`. -/
def deviceLocalBit : Nat := 1

/-- `VK_MEMORY_PROPERTY_PROTECTED_BIT`. -/
def protectedBit : Nat := 32

/-- The required flags of `create_swapchain_state`. -/
def requiredFlags (createFlags : Nat) : Nat :=
  if createFlags &&& protectedContentBit ≠ 0 then deviceLocalBit ||| protectedBit
  else deviceLocalBit

/-- `find_memory_type`, with no index in place of -1. -/
def findMemoryType (memoryTypes : List Nat) (memoryTypeBitsRequirement requiredFlags : Nat) :
    Option Nat :=
  (List.range memoryTypes.length).find? fun index =>
    memoryTypeBitsRequirement.testBit index &&
      memoryTypes[index]?.any fun flags => flags &&& requiredFlags == requiredFlags

/-- `create_image`. The memory type found is passed on to `AllocateMemory`. -/
def createImage (answers : CreateAnswers) (commandPool createFlags index : Nat) :
    Program Platform OwnedImage := do
  let image ← Platform.create answers.vk .image
  let _ ← Program.ofOption
    (findMemoryType answers.memoryTypes (answers.memoryTypeBits index) (requiredFlags createFlags))
  let sharedMemory ← Platform.create answers.vk .memory
  Platform.require answers.vk -- BindImageMemory
  let renderingDone ← Platform.create answers.vk .semaphore
  let copyingDone ← Platform.create answers.vk .semaphore
  let commandBuffer ← Platform.allocateCommandBuffer answers.vk commandPool
  let commandBufferFence ← Platform.create answers.vk .fence
  return { image, sharedMemory, renderingDone, copyingDone, commandBuffer, commandBufferFence }

/-- The loop of `create_swapchain_state`. -/
def createImages (answers : CreateAnswers) (commandPool createFlags : Nat) :
    Program Platform (List OwnedImage) :=
  Program.collect (List.range answers.enumerated.2.length)
    (createImage answers commandPool createFlags)

/-- `export_image_handles`. A handle stands for the object that it is exported from. -/
def exportImageHandles (vk : Nat → VkResult) (image : OwnedImage) :
    Program Platform ImageHandles := do
  Platform.require vk -- GetMemoryFdKHR
  Platform.require vk -- GetSemaphoreFdKHR
  Platform.require vk -- GetSemaphoreFdKHR
  return {
    memoryHandle := image.sharedMemory
    renderingDoneHandle := image.renderingDone
    copyingDoneHandle := image.copyingDone }

/-- The loop of `handle_create_swapchain`. -/
def writeImages (vk : Nat → VkResult) (images : List OwnedImage) : Program Platform PUnit :=
  Program.forEach images fun image => do
    let handles ← exportImageHandles vk image
    Platform.writeImageHandles handles

/-- The image type that the server reads off the usage flags: the color bit wins. -/
def imageTypeOf (usageFlags : Nat) : Option ImageType :=
  if usageFlags &&& colorAttachmentBit ≠ 0 then some .color
  else if usageFlags &&& depthStencilAttachmentBit ≠ 0 then some .depthStencil
  else none

/-- The state of a new swapchain. -/
def newSwapchain (answers : CreateAnswers) (createInfo : SwapchainCreateInfo) (session : Handle)
    (sharedImages : List OwnedImage) (imageType : ImageType) : Swapchain where
  handle := answers.created.2
  parentHandle := session
  sharedImages := sharedImages
  runtimeImages := answers.enumerated.2
  imageType := imageType
  width := createInfo.width
  height := createInfo.height

/-- It is registered under the handle from the runtime. -/
@[simp] theorem newSwapchain_handle (answers : CreateAnswers) (createInfo : SwapchainCreateInfo)
    (session : Handle) (sharedImages : List OwnedImage) (imageType : ImageType) :
    (newSwapchain answers createInfo session sharedImages imageType).handle =
      answers.created.2 :=
  rfl

/-- A part of a handler that only calls Vulkan and the handle exchange. -/
def onPlatform {α : Type} (program : Program Platform α) : Program State α := fun s =>
  ((program s.platform).1, { s with platform := (program s.platform).2 })

/-- Add a swapchain to the ones of a session. -/
def SessionState.enlist (session : SessionState) (swapchain : Handle) : SessionState :=
  { session with swapchains := session.swapchains.insert swapchain }

/-- Remove it. -/
def SessionState.delist (session : SessionState) (swapchain : Handle) : SessionState :=
  { session with swapchains := session.swapchains.filter (· ≠ swapchain) }

/-- `store_swapchain_state` and the entry in the set of its session. -/
def State.register (s : State) (session : SessionState) (swapchain : Swapchain) : State :=
  { s with
    swapchainStates := s.swapchainStates.emplace swapchain.handle swapchain
    sessionStates :=
      s.sessionStates.insert swapchain.parentHandle (session.enlist swapchain.handle) }

/-- `create_swapchain_state`. -/
def createSwapchainState (answers : CreateAnswers) (session : Handle) (sessionState : SessionState)
    (createInfo : SwapchainCreateInfo) : Program State PUnit := do
  if !answers.counted.succeeded then Program.throw
  else if !answers.enumerated.1.succeeded then Program.throw
  else
    let s ← Program.get
    let sharedImages ←
      onPlatform (createImages answers s.savedVkCommandPool createInfo.createFlags)
    let imageType ← Program.ofOption (imageTypeOf createInfo.usageFlags)
    Program.modify fun s => s.register sessionState
      (newSwapchain answers createInfo session sharedImages imageType)

/-- `xrCreateSwapchain` of the runtime. -/
def State.runtimeCreates (s : State) (answers : CreateAnswers) (session : Handle) : State :=
  if answers.created.1.succeeded then
    { s with alive := (answers.created.2, session) :: s.alive }
  else s

/-- `handle_create_swapchain`: the reply, unless an exception is thrown. The message cannot be
decoded when the client has not been able to write all of it. -/
def handleCreateSwapchain (decodes : Bool) (answers : CreateAnswers) (session : Handle)
    (createInfo : SwapchainCreateInfo) : Program State CreateSwapchainReturn := do
  if !decodes then Program.throw
  else
    Program.modify fun s => s.runtimeCreates answers session
    if answers.created.1 ≠ .success then return { result := answers.created.1 }
    else
      let s ← Program.get
      let sessionState ← Program.ofOption (s.sessionStates.lookup session)
      createSwapchainState answers session sessionState createInfo
      let s ← Program.get
      let swapchainState ← Program.ofOption (s.swapchainStates.lookup answers.created.2)
      onPlatform (writeImages answers.vk swapchainState.sharedImages)
      return {
        result := answers.created.1
        handle := answers.created.2
        numImages := swapchainState.sharedImages.length }

/-- The objects of an image. -/
def OwnedImage.objects (image : OwnedImage) : List (Kind × Nat) :=
  [(.fence, image.commandBufferFence), (.commandBuffer, image.commandBuffer),
    (.semaphore, image.copyingDone), (.semaphore, image.renderingDone),
    (.memory, image.sharedMemory), (.image, image.image)]

/-- The objects of a swapchain. -/
def Swapchain.objects (swapchain : Swapchain) : List (Kind × Nat) :=
  swapchain.sharedImages.flatMap OwnedImage.objects

/-- The objects of an image that `destroy_swapchain` destroys, in its order. -/
def OwnedImage.destroyed (image : OwnedImage) : List (Kind × Nat) :=
  [(.commandBuffer, image.commandBuffer), (.image, image.image), (.memory, image.sharedMemory),
    (.semaphore, image.renderingDone), (.semaphore, image.copyingDone)]

/-- The objects are destroyed and the entries erased, in the map and in the set of the session, and
the runtime destroys its swapchain if it can. -/
def State.unregister (s : State) (ended : Bool) (session : SessionState) (swapchain : Handle)
    (state : Swapchain) : State :=
  { s with
    platform := s.platform.destroy (state.sharedImages.flatMap OwnedImage.destroyed)
    swapchainStates := s.swapchainStates.erase swapchain
    sessionStates := s.sessionStates.insert state.parentHandle (session.delist swapchain)
    alive := if ended then s.alive.filter fun pair => pair.1 ≠ swapchain else s.alive }

/-- `destroy_swapchain`. Whether the runtime's call succeeds is `ended`. -/
def destroySwapchain (ended : Bool) (swapchain : Handle) : Program State PUnit := do
  let s ← Program.get
  let swapchainState ← Program.ofOption (s.swapchainStates.lookup swapchain)
  let sessionState ← Program.ofOption (s.sessionStates.lookup swapchainState.parentHandle)
  Program.modify fun s => s.unregister ended sessionState swapchain swapchainState

/-- `handle_destroy_swapchain`. -/
def handleDestroySwapchain (decodes ended : Bool) (swapchain : Handle) : Program State PUnit :=
  if decodes then destroySwapchain ended swapchain else Program.throw

/-- `handle_create_session`, for what the runtime returns. -/
def handleCreateSession (created : XrResult × Handle) : Program State Handle := do
  if !created.1.succeeded then Program.throw
  else
    Program.modify fun s => { s with
      sessionStates := s.sessionStates.emplace created.2 { handle := created.2 } }
    return created.2

/-- `session_states[session].swapchains`. -/
def State.swapchainsOf (s : State) (session : Handle) : List Handle :=
  (s.sessionStates.lookup session).elim [] SessionState.swapchains

/-- The loop of `handle_destroy_session`, from the element that its iterator points to. The body
erases the element from the set of the session that the swapchain names; where it is no longer in
the set of the loop, the iterator that is incremented next is invalid. -/
def destroySwapchains (ended : Handle → Bool) (session : Handle) :
    List Handle → Program State PUnit
  | [] => return ⟨⟩
  | swapchain :: rest => do
    destroySwapchain (ended swapchain) swapchain
    let s ← Program.get
    if swapchain ∈ s.swapchainsOf session then destroySwapchains ended session rest
    else Program.modify fun s => { s with undefined := true }

/-- `DestroySession` of the runtime: its swapchains end with it. Nothing is said about what happens
after undefined behaviour. -/
def State.runtimeDestroys (s : State) (ended : Bool) (session : Handle) : State :=
  if s.undefined then s
  else { s with alive := if ended then s.alive.filter fun pair => pair.2 ≠ session else s.alive }

/-- `handle_destroy_session`. Whether the runtime destroys a swapchain is `ended` of it, and whether
it destroys the session is `sessionEnded`. -/
def handleDestroySession (ended : Handle → Bool) (sessionEnded : Bool) (session : Handle) :
    Program State PUnit := do
  let s ← Program.get
  let sessionState ← Program.ofOption (s.sessionStates.lookup session)
  destroySwapchains ended session sessionState.swapchains
  Program.modify fun s => s.runtimeDestroys sessionEnded session

/-- A request that reaches one of the handlers. -/
inductive Request where
  /-- `XRTP_MSG_VULKAN2_CREATE_SWAPCHAIN`. -/
  | createSwapchain (decodes : Bool) (answers : CreateAnswers) (session : Handle)
      (createInfo : SwapchainCreateInfo)
  /-- `XRTP_MSG_VULKAN2_DESTROY_SWAPCHAIN`. -/
  | destroySwapchain (decodes ended : Bool) (swapchain : Handle)
  /-- `XRTP_MSG_VULKAN2_CREATE_SESSION`. -/
  | createSession (created : XrResult × Handle)
  /-- `XRTP_MSG_VULKAN2_DESTROY_SESSION`. -/
  | destroySession (ended : Bool) (session : Handle)

/-- The state after a request. -/
def Request.perform (s : State) : Request → State
  | createSwapchain decodes answers session createInfo =>
    (handleCreateSwapchain decodes answers session createInfo s).2
  | destroySwapchain decodes ended swapchain => (handleDestroySwapchain decodes ended swapchain s).2
  | createSession created => (handleCreateSession created s).2
  | destroySession ended session => (handleDestroySession (fun _ => ended) ended session s).2

/-- The replies and the state of `handle_create_swapchain`. -/
theorem handleCreateSwapchain_eq (decodes : Bool) (answers : CreateAnswers) (session : Handle)
    (createInfo : SwapchainCreateInfo) (s : State) :
    handleCreateSwapchain decodes answers session createInfo s =
      if !decodes then (none, s)
      else
        let s' := s.runtimeCreates answers session
        if answers.created.1 ≠ .success then (some { result := answers.created.1 }, s')
        else
          match s'.sessionStates.lookup session with
          | none => (none, s')
          | some sessionState =>
            if !(answers.counted.succeeded && answers.enumerated.1.succeeded) then (none, s')
            else
              match createImages answers s'.savedVkCommandPool createInfo.createFlags s'.platform,
                imageTypeOf createInfo.usageFlags with
              | (none, platform), _ => (none, { s' with platform })
              | (some _, platform), none => (none, { s' with platform })
              | (some images, platform), some imageType =>
                let stored := State.register { s' with platform } sessionState
                  (newSwapchain answers createInfo session images imageType)
                let shared := ((s'.swapchainStates.lookup answers.created.2).getD
                  (newSwapchain answers createInfo session images imageType)).sharedImages
                let written := writeImages answers.vk shared platform
                (written.1.map fun _ => {
                  result := answers.created.1
                  handle := answers.created.2
                  numImages := shared.length }, { stored with platform := written.2 }) := by
  cases decodes with
  | false => simp [handleCreateSwapchain, Program.throw]
  | true =>
    set s' := s.runtimeCreates answers session with runtime
    by_cases refused : answers.created.1 = .success
    case neg =>
      simp [handleCreateSwapchain, Program.bind_apply, Program.andThen, Program.modify, refused,
        runtime]
    cases found : s'.sessionStates.lookup session with
    | none =>
      simp [handleCreateSwapchain, Program.bind_apply, Program.andThen, Program.modify, refused,
        Program.get, Program.ofOption, Program.throw, ← runtime, found]
    | some sessionState =>
      cases counted : answers.counted.succeeded with
      | false =>
        simp [handleCreateSwapchain, createSwapchainState, Program.bind_apply, Program.andThen,
          Program.modify, refused, Program.get, Program.ofOption, Program.ret, Program.throw,
          ← runtime, found, counted]
      | true =>
        cases enumerated : answers.enumerated.1.succeeded with
        | false =>
          simp [handleCreateSwapchain, createSwapchainState, Program.bind_apply, Program.andThen,
            Program.modify, refused, Program.get, Program.ofOption, Program.ret, Program.throw,
            ← runtime, found, counted, enumerated]
        | true =>
          rcases made : createImages answers s'.savedVkCommandPool createInfo.createFlags
            s'.platform with ⟨_ | images, platform⟩
          · simp [handleCreateSwapchain, createSwapchainState, Program.bind_apply, Program.andThen,
              Program.modify, refused, Program.get, Program.ofOption, Program.ret, onPlatform,
              ← runtime, found, counted, enumerated, made]
          · cases type : imageTypeOf createInfo.usageFlags with
            | none =>
              simp [handleCreateSwapchain, createSwapchainState, Program.bind_apply,
                Program.andThen, Program.modify, refused, Program.get, Program.ofOption,
                Program.ret, Program.throw, onPlatform, ← runtime, found, counted, enumerated,
                made, type]
            | some imageType =>
              have looked := @Registry.lookup_emplace_self _ _ _ s'.swapchainStates
                answers.created.2 (newSwapchain answers createInfo session images imageType)
              rcases written : writeImages answers.vk ((s'.swapchainStates.lookup
                answers.created.2).getD (newSwapchain answers createInfo session images
                  imageType)).sharedImages platform with ⟨_ | _, platform'⟩ <;>
                simp [handleCreateSwapchain, createSwapchainState, Program.bind_apply,
                  Program.andThen, Program.modify, refused, Program.get, Program.ofOption,
                  Program.ret, onPlatform, ← runtime, found, counted, enumerated, made, type,
                  State.register, looked, written]

/-- What `destroy_swapchain` does. -/
theorem destroySwapchain_eq (ended : Bool) (swapchain : Handle) (s : State) :
    destroySwapchain ended swapchain s =
      match s.swapchainStates.lookup swapchain with
      | none => (none, s)
      | some state =>
        match s.sessionStates.lookup state.parentHandle with
        | none => (none, s)
        | some session => (some ⟨⟩, s.unregister ended session swapchain state) := by
  cases found : s.swapchainStates.lookup swapchain with
  | none =>
    simp [destroySwapchain, Program.bind_apply, Program.andThen, Program.get, found,
      Program.ofOption, Program.throw]
  | some state =>
    cases parent : s.sessionStates.lookup state.parentHandle <;>
      simp [destroySwapchain, Program.bind_apply, Program.andThen, Program.get, found,
        Program.ofOption, Program.ret, Program.throw, Program.modify, parent]

end XrTransport.Vulkan.Server.Registry
