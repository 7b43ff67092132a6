import XrTransport.Server.FunctionLoader

/-!
# The handlers of the server

One handler for each message the server and its Vulkan module register a handler for, in the
default build. A handler runs under the message lock until it returns or throws;
`dispatch_to_handler` swallows the exception.
-/
namespace XrTransport.Server

open Program (forEach modify)

/-- What a handler reads from its message. -/
structure Payload where
  /-- Whether the parameters can be decoded. -/
  decodes : Bool
  /-- Whether the pointer to the create info is not null. -/
  createInfo : Bool := true
  /-- Whether the pointer `instance` of `xrCreateInstance` is not null. -/
  instanceOut : Bool := true
  /-- The instance, session or swapchain passed to the handler. -/
  handle : Nat := 0
  /-- Whether the usage flags ask for colour or depth-stencil images. -/
  usable : Bool := true
deriving DecidableEq, Repr

/-- A request message. -/
inductive Request where
  /-- `XRTP_MSG_FUNCTION_CALL`. There is no function when the id is missing or unknown. -/
  | functionCall (function : Option Function)
  /-- `XRTP_MSG_SYNCHRONIZATION_REQUEST`. -/
  | synchronizationRequest
  /-- `XRTP_MSG_POLL_EVENT`. -/
  | pollEvent
  /-- `XRTP_MSG_VULKAN2_GET_PHYSICAL_DEVICE`. -/
  | getPhysicalDevice
  /-- `XRTP_MSG_VULKAN2_CREATE_SWAPCHAIN`. -/
  | createSwapchain
  /-- `XRTP_MSG_VULKAN2_DESTROY_SWAPCHAIN`. -/
  | destroySwapchain
  /-- `XRTP_MSG_VULKAN2_CREATE_SESSION`. -/
  | createSession
  /-- `XRTP_MSG_VULKAN2_DESTROY_SESSION`. -/
  | destroySession
  /-- `XRTP_MSG_VULKAN2_RELEASE_SWAPCHAIN_IMAGE`. -/
  | releaseSwapchainImage
  /-- `XRTP_MSG_VULKAN2_GET_SWAPCHAIN_IMAGE_HANDLES`. -/
  | getSwapchainImageHandles
deriving DecidableEq, Repr

/-- The header of the reply to a request. -/
def Request.replyHeader : Request → Header
  | .functionCall _ => .functionReturn
  | .synchronizationRequest => .synchronizationResponse
  | .pollEvent => .pollEventReturn
  | .getPhysicalDevice => .returnPhysicalDevice
  | .createSwapchain => .createSwapchainReturn
  | .destroySwapchain => .destroySwapchainReturn
  | .createSession => .createSessionReturn
  | .destroySession => .destroySessionReturn
  | .releaseSwapchainImage => .releaseSwapchainImageReturn
  | .getSwapchainImageHandles => .returnSwapchainImageHandles

section
variable (answers : Answers)

/-- The variables that the Vulkan module's `on_instance` fills, in its order. -/
def instanceSlots : List Slot :=
  [.pfn .getVulkanGraphicsRequirements2, .pfn .createVulkanInstance,
    .pfn .getVulkanGraphicsDevice2, .pfn .createVulkanDevice, .member .getSystem,
    .member .createSwapchain, .member .enumerateSwapchainImages, .member .destroySwapchain,
    .member .createSession, .member .destroySession, .member .acquireSwapchainImage,
    .member .waitSwapchainImage, .member .releaseSwapchainImage]

/-- A call whose error throws. -/
def callChecked (slot : Slot) : Handler Unit := do
  callPointer slot
  attempt (answers.result slot.function 0).succeeded

/-- A call of a creating function that reports a Vulkan result too. -/
def callVulkan (slot : Slot) : Handler Unit := do
  callPointer slot
  attempt (answers.vkResult slot.function == .success)

/-- `setup_vulkan_instance`. -/
def setupVulkanInstance : Handler Unit := do
  callChecked answers (.member .getSystem)
  callChecked answers (.pfn .getVulkanGraphicsRequirements2)
  callVulkan answers (.pfn .createVulkanInstance)
  attempt (answers.result .createVulkanInstance 0).succeeded
  runPart answers .initInstance
  callChecked answers (.pfn .getVulkanGraphicsDevice2)
  runPart answers .selectQueueFamily
  callVulkan answers (.pfn .createVulkanDevice)
  attempt (answers.result .createVulkanDevice 0 == .success)
  runPart answers .initDevice

/-- `on_instance` of a module. That of the handle exchange opens a socket and reports errors to the
log only. -/
def onInstance : Module → Handler Unit
  | .handleExchange => pure ()
  | .vulkan => do
    forEach instanceSlots (ensureFunctionLoaded answers)
    setupVulkanInstance answers

/-- `on_instance_destroy` of a module. -/
def onInstanceDestroy : Module → Handler Unit
  | .handleExchange => pure ()
  | .vulkan => runPart answers .destroyCommandPool

/-- `Server::create_instance_handler`. -/
def createInstanceHandler (payload : Payload) : Handler Unit := do
  ensureFunctionLoaded answers (.member .createInstance)
  attempt payload.decodes
  dereference payload.createInfo
  callPointer (.member .createInstance)
  let result := answers.result .createInstance 0
  if result.succeeded then
    modify fun s => { s with runtime := s.runtime.create answers.created }
    dereference payload.instanceOut
    modify fun s => { s with savedInstance := answers.created, loaderInstance := answers.created }
    let s ← Program.get
    forEach s.modules (onInstance answers)
    send { header := .functionReturn, result := result, handle := answers.created.val }
  else
    -- the copy of the client's `instance` goes back unchanged
    send { header := .functionReturn, result := result, handle := payload.handle }

/-- `Server::destroy_instance_handler`. -/
def destroyInstanceHandler (payload : Payload) : Handler Unit := do
  ensureFunctionLoaded answers (.member .destroyInstance)
  attempt payload.decodes
  let s ← Program.get
  if payload.handle = s.savedInstance then
    forEach s.modules (onInstanceDestroy answers)
    callPointer (.member .destroyInstance)
    let result := answers.result .destroyInstance 0
    modify fun s => { s with
      runtime := if result.succeeded then s.runtime.destroy payload.handle else s.runtime
      -- whatever the result
      savedInstance := 0 }
    send { header := .functionReturn, result := result }
  else
    send { header := .functionReturn, result := some .handleInvalid }

/-- The generated `handle_` of a function. -/
def handleGenerated (function : Function) (payload : Payload) : Handler Unit := do
  ensureFunctionLoaded answers (.member function)
  attempt payload.decodes
  callPointer (.member function)
  let result := answers.result function 0
  send { header := .functionReturn, result := result, complete := answers.serializes }
  attempt answers.serializes

/-- `FunctionDispatch::handle_function`, after the id has been read. -/
def handleFunction (payload : Payload) : Option Function → Handler Unit
  | none => Program.throw
  | some .createInstance => createInstanceHandler answers payload
  | some .destroyInstance => destroyInstanceHandler answers payload
  | some function => handleGenerated answers function payload

/-- The handler of `XRTP_MSG_SYNCHRONIZATION_REQUEST`. -/
def handleSynchronizationRequest (payload : Payload) : Handler Unit := do
  ensureFunctionLoaded answers .fromPlatformTime
  ensureFunctionLoaded answers .toPlatformTime
  attempt payload.decodes
  -- the result is not looked at
  callPointer .fromPlatformTime
  send { header := .synchronizationResponse }

/-- The loop of the handler of `XRTP_MSG_POLL_EVENT`, by the number of events it still drops. -/
def pollLoop : Nat → Handler Unit
  | 0 => do
    callPointer (.member .pollEvent)
    send { header := .pollEventReturn, result := answers.polled }
  | dropped + 1 => do
    callPointer (.member .pollEvent)
    pollLoop dropped

/-- The handler of `XRTP_MSG_POLL_EVENT`. -/
def handlePollEvent : Handler Unit := do
  ensureFunctionLoaded answers (.member .pollEvent)
  pollLoop answers answers.dropped

/-- `handle_get_physical_device`. -/
def handleGetPhysicalDevice : Handler Unit :=
  send { header := .returnPhysicalDevice }

/-- `std::optional::value`. -/
def valueOf {α : Type} : Option α → Handler α
  | some value => pure value
  | none => Program.throw

/-- `create_swapchain_state`. -/
def createSwapchainState (payload : Payload) (session : SessionState) (handle : Nat) :
    Handler Unit := do
  callPointer (.member .enumerateSwapchainImages)
  attempt (answers.result .enumerateSwapchainImages 0).succeeded
  callPointer (.member .enumerateSwapchainImages)
  attempt (answers.result .enumerateSwapchainImages 1).succeeded
  runPart answers .createImages
  attempt payload.usable
  modify fun s => { s with
    swapchainStates := fun other =>
      if other = handle then (s.swapchainStates handle).or (some ⟨payload.handle⟩)
      else s.swapchainStates other
    sessionStates := fun other =>
      if other = payload.handle then some ⟨session.swapchains.insert handle⟩
      else s.sessionStates other }

/-- `handle_create_swapchain`. -/
def handleCreateSwapchain (payload : Payload) : Handler Unit := do
  attempt payload.decodes
  dereference payload.createInfo
  callPointer (.member .createSwapchain)
  let result := answers.result .createSwapchain 0
  if result = .success then
    let s ← Program.get
    let session ← valueOf (s.sessionStates payload.handle)
    createSwapchainState answers payload session answers.handle
    runPart answers .exportImages
    send { header := .createSwapchainReturn, result := result, handle := answers.handle }
  else
    send { header := .createSwapchainReturn, result := result }

/-- `destroy_swapchain`. -/
def destroySwapchain (handle : Nat) : Handler Unit := do
  let s ← Program.get
  let swapchain ← valueOf (s.swapchainStates handle)
  let session ← valueOf (s.sessionStates swapchain.parentHandle)
  runPart answers .destroyImages
  modify fun s => { s with
    swapchainStates := fun other => if other = handle then none else s.swapchainStates other
    sessionStates := fun other =>
      if other = swapchain.parentHandle then some ⟨session.swapchains.erase handle⟩
      else s.sessionStates other }
  callPointer (.member .destroySwapchain)

/-- `handle_destroy_swapchain`. -/
def handleDestroySwapchain (payload : Payload) : Handler Unit := do
  attempt payload.decodes
  destroySwapchain answers payload.handle
  send { header := .destroySwapchainReturn }

/-- `handle_create_session`. -/
def handleCreateSession (payload : Payload) : Handler Unit := do
  attempt payload.decodes
  callChecked answers (.member .createSession)
  modify fun s => { s with
    sessionStates := fun other =>
      if other = answers.handle then (s.sessionStates other).or (some ⟨[]⟩)
      else s.sessionStates other }
  send { header := .createSessionReturn, handle := answers.handle }

/-- The body of the loop of `handle_destroy_session`. -/
def destroyListed (session handle : Nat) : Handler Unit := do
  destroySwapchain answers handle
  let s ← Program.get
  -- the iterator goes on from this element of the set, if it is still there
  dereference ((s.sessionStates session).any fun state => state.swapchains.contains handle)

/-- `handle_destroy_session`. -/
def handleDestroySession (payload : Payload) : Handler Unit := do
  attempt payload.decodes
  let s ← Program.get
  let session ← valueOf (s.sessionStates payload.handle)
  forEach session.swapchains (destroyListed answers payload.handle)
  callPointer (.member .destroySession)
  send { header := .destroySessionReturn }

/-- `handle_release_swapchain_image`. -/
def handleReleaseSwapchainImage (payload : Payload) : Handler Unit := do
  attempt payload.decodes
  let s ← Program.get
  let _ ← valueOf (s.swapchainStates payload.handle)
  -- the result is not looked at
  callPointer (.member .acquireSwapchainImage)
  runPart answers .recordCopy
  callPointer (.member .waitSwapchainImage)
  attempt (answers.result .waitSwapchainImage 0 == .success)
  runPart answers .submitCopy
  callChecked answers (.member .releaseSwapchainImage)
  send { header := .releaseSwapchainImageReturn }

/-- `handle_get_swapchain_image_handles` of the default build, which refuses the command. -/
def handleGetSwapchainImageHandles (payload : Payload) : Handler Unit := do
  attempt payload.decodes
  send { header := .returnSwapchainImageHandles }

/-- The handler that is registered for a message. -/
def handle (payload : Payload) : Request → Handler Unit
  | .functionCall function => handleFunction answers payload function
  | .synchronizationRequest => handleSynchronizationRequest answers payload
  | .pollEvent => handlePollEvent answers
  | .getPhysicalDevice => handleGetPhysicalDevice
  | .createSwapchain => handleCreateSwapchain answers payload
  | .destroySwapchain => handleDestroySwapchain answers payload
  | .createSession => handleCreateSession answers payload
  | .destroySession => handleDestroySession answers payload
  | .releaseSwapchainImage => handleReleaseSwapchainImage answers payload
  | .getSwapchainImageHandles => handleGetSwapchainImageHandles payload

/-- `load_modules`, which lists the runtime's extensions. -/
def loadModules : Handler Unit := do
  ensureFunctionLoaded answers (.member .enumerateInstanceExtensionProperties)
  callPointer (.member .enumerateInstanceExtensionProperties)
  callPointer (.member .enumerateInstanceExtensionProperties)

end

/-- A message with what the runtime and Vulkan answer while it is handled. -/
structure Delivery where
  /-- The message. -/
  request : Request
  /-- What the handler reads from it. -/
  payload : Payload
  /-- The answers. -/
  answers : Answers

/-- Whether a handler is registered for a message, given the modules that are loaded. -/
def Request.registered (modules : List Module) : Request → Bool
  | .functionCall _ | .synchronizationRequest | .pollEvent => true
  | .getPhysicalDevice | .createSwapchain | .destroySwapchain | .createSession | .destroySession
  | .releaseSwapchainImage | .getSwapchainImageHandles => modules.contains .vulkan

/-- `dispatch_to_handler`, which swallows what the handler throws and skips a message without a
handler. A crash ends the process. -/
def dispatch (s : State) (delivery : Delivery) : Option State :=
  if s.crashed then none
  else if delivery.request.registered s.modules then
    some (handle delivery.answers delivery.payload delivery.request { s with replies := [] }).2
  else some { s with replies := [] }

/-- The server after its constructor, with what `saved_instance` happens to hold. -/
def construct (answers : Answers) (modules : List Module) (savedInstance : Nat) : State :=
  (loadModules answers { savedInstance := savedInstance, modules := modules }).2

end XrTransport.Server
