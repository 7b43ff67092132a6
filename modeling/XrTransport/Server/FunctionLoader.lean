import Mathlib.Algebra.Group.Nat.Defs
import XrTransport.OpenXr
import XrTransport.Foundation.Program

/-!
# The server and its function loader

The state of the server process as its handlers see it: the instance it has saved, the pointers it
has cached, the sessions and swapchains of the Vulkan module, and what it has sent. The runtime is
a part of the state, with the instances that are live. `ensure_function_loaded` is the only way a
pointer gets into the cache, and it asks the runtime for the instance the loader holds.
-/
namespace XrTransport.Server

/-- A runtime function. Those the code names stand by name, the other generated ones by id. -/
inductive Function where
  /-- `xrCreateInstance`. -/
  | createInstance
  /-- `xrDestroyInstance`. -/
  | destroyInstance
  /-- `xrEnumerateInstanceExtensionProperties`. -/
  | enumerateInstanceExtensionProperties
  /-- `xrEnumerateApiLayerProperties`. -/
  | enumerateApiLayerProperties
  /-- `xrPollEvent`. -/
  | pollEvent
  /-- `xrConvertTimespecTimeToTimeKHR`. -/
  | convertTimespecTimeToTime
  /-- `xrConvertTimeToTimespecTimeKHR`. -/
  | convertTimeToTimespecTime
  /-- `xrGetVulkanGraphicsRequirements2KHR`. -/
  | getVulkanGraphicsRequirements2
  /-- `xrCreateVulkanInstanceKHR`. -/
  | createVulkanInstance
  /-- `xrGetVulkanGraphicsDevice2KHR`. -/
  | getVulkanGraphicsDevice2
  /-- `xrCreateVulkanDeviceKHR`. -/
  | createVulkanDevice
  /-- `xrGetSystem`. -/
  | getSystem
  /-- `xrCreateSwapchain`. -/
  | createSwapchain
  /-- `xrEnumerateSwapchainImages`. -/
  | enumerateSwapchainImages
  /-- `xrDestroySwapchain`. -/
  | destroySwapchain
  /-- `xrCreateSession`. -/
  | createSession
  /-- `xrDestroySession`. -/
  | destroySession
  /-- `xrAcquireSwapchainImage`. -/
  | acquireSwapchainImage
  /-- `xrWaitSwapchainImage`. -/
  | waitSwapchainImage
  /-- `xrReleaseSwapchainImage`. -/
  | releaseSwapchainImage
  /-- Any other generated function. -/
  | other (id : Nat)
deriving DecidableEq, Repr

/-- The functions that need no instance. -/
def Function.global (function : Function) : Bool :=
  function == .createInstance || function == .enumerateInstanceExtensionProperties ||
    function == .enumerateApiLayerProperties

/-- A variable that `ensure_function_loaded` fills. -/
inductive Slot where
  /-- The member of `FunctionLoader` for a function. -/
  | member (function : Function)
  /-- `Server::from_platform_time`. -/
  | fromPlatformTime
  /-- `Server::to_platform_time`. -/
  | toPlatformTime
  /-- The member `pfn_..` of `VulkanServerModule` for a function. -/
  | pfn (function : Function)
deriving DecidableEq, Repr

/-- The function whose name is passed to `ensure_function_loaded` for a variable. -/
def Slot.function : Slot → Function
  | .member function => function
  | .fromPlatformTime => .convertTimespecTimeToTime
  | .toPlatformTime => .convertTimeToTimespecTime
  | .pfn function => function

/-- An instance of the runtime. The runtime may use the handle of a destroyed instance again; the
serial number tells them apart. -/
structure Instance where
  /-- The handle. -/
  handle : Nat
  /-- The number of instances created before it. -/
  serial : Nat
deriving DecidableEq, Repr

/-- What the runtime knows about instances. -/
structure Runtime where
  /-- The instances that are live. -/
  live : List Instance := []
  /-- The number of instances created so far. -/
  created : Nat := 0
deriving DecidableEq, Repr

namespace Runtime

/-- The serial number of the live instance with a handle. -/
def serial (runtime : Runtime) (handle : Nat) : Option Nat :=
  (runtime.live.find? fun one => one.handle == handle).map Instance.serial

/-- `xrCreateInstance` has succeeded. -/
def create (runtime : Runtime) (handle : Nat) : Runtime where
  live := ⟨handle, runtime.created⟩ :: runtime.live
  created := runtime.created + 1

/-- `xrDestroyInstance` has succeeded. -/
def destroy (runtime : Runtime) (handle : Nat) : Runtime where
  live := runtime.live.filter fun one => one.handle != handle
  created := runtime.created

end Runtime

/-- A function pointer that `xrGetInstanceProcAddr` has returned. -/
structure Pointer where
  /-- The serial number of the instance it was returned for, if the handle was that of a live
  instance then. -/
  source : Option Nat
deriving DecidableEq, Repr

/-- A call of a runtime function through a cached pointer. -/
structure Call where
  /-- The variable that holds the pointer. -/
  slot : Slot
  /-- Its value, `nullptr` without one. -/
  pointer : Option Pointer
  /-- The instances that are live at the moment of the call. -/
  live : List Instance
deriving DecidableEq, Repr

/-- The headers of replies. -/
inductive Header where
  /-- `XRTP_MSG_FUNCTION_RETURN`. -/
  | functionReturn
  /-- `XRTP_MSG_SYNCHRONIZATION_RESPONSE`. -/
  | synchronizationResponse
  /-- `XRTP_MSG_POLL_EVENT_RETURN`. -/
  | pollEventReturn
  /-- `XRTP_MSG_VULKAN2_RETURN_PHYSICAL_DEVICE`. -/
  | returnPhysicalDevice
  /-- `XRTP_MSG_VULKAN2_CREATE_SWAPCHAIN_RETURN`. -/
  | createSwapchainReturn
  /-- `XRTP_MSG_VULKAN2_DESTROY_SWAPCHAIN_RETURN`. -/
  | destroySwapchainReturn
  /-- `XRTP_MSG_VULKAN2_CREATE_SESSION_RETURN`. -/
  | createSessionReturn
  /-- `XRTP_MSG_VULKAN2_DESTROY_SESSION_RETURN`. -/
  | destroySessionReturn
  /-- `XRTP_MSG_VULKAN2_RELEASE_SWAPCHAIN_IMAGE_RETURN`. -/
  | releaseSwapchainImageReturn
  /-- `XRTP_MSG_VULKAN2_RETURN_SWAPCHAIN_IMAGE_HANDLES`. -/
  | returnSwapchainImageHandles
deriving DecidableEq, Repr

/-- A message the server has sent. -/
structure Reply where
  /-- Its header. -/
  header : Header
  /-- The result code in it. -/
  result : Option XrResult := none
  /-- The handle in it. -/
  handle : Option Nat := none
  /-- Whether everything the handler writes is in it. When serializing throws, the destructor of
  the message sends what there is. -/
  complete : Bool := true
deriving DecidableEq, Repr

/-- `SwapchainState` of the server, without the images. -/
structure SwapchainState where
  /-- The session it belongs to. -/
  parentHandle : Nat
deriving DecidableEq, Repr

/-- `SessionState` of the server. -/
structure SessionState where
  /-- Its swapchains. -/
  swapchains : List Nat
deriving DecidableEq, Repr

/-- A server module. -/
inductive Module where
  /-- `HandleExchangeServerModule`. -/
  | handleExchange
  /-- `VulkanServerModule`. -/
  | vulkan
deriving DecidableEq, Repr

/-- The server process and the runtime. -/
structure State where
  /-- The runtime. -/
  runtime : Runtime := {}
  /-- `Server::saved_instance`, which no constructor initializes. -/
  savedInstance : Nat
  /-- `FunctionLoader::loader_instance`. -/
  loaderInstance : Nat := 0
  /-- The cached pointers. -/
  pointers : Slot → Option Pointer := fun _ => none
  /-- `Server::modules`. -/
  modules : List Module
  /-- `session_states` of the Vulkan module. -/
  sessionStates : Nat → Option SessionState := fun _ => none
  /-- `swapchain_states` of the Vulkan module. -/
  swapchainStates : Nat → Option SwapchainState := fun _ => none
  /-- The calls made through cached pointers, in order. -/
  calls : List Call := []
  /-- The messages sent for the current request, in order. -/
  replies : List Reply := []
  /-- Whether a null pointer has been called or read, or an iterator has gone on from an element
  that has been erased. -/
  crashed : Bool := false

/-- Code of the server: it returns, or an exception leaves it. After a crash it also ends without a
value. -/
abbrev Handler := Program State

/-- How code that only touches Vulkan objects ends. -/
inductive Ending where
  /-- It returns. -/
  | completed
  /-- An exception leaves it. -/
  | threw
  /-- It ends the process. -/
  | crashed
deriving DecidableEq, Repr

/-- The parts of the Vulkan module that call no runtime function. -/
inductive VulkanPart where
  /-- `init_instance` after the Vulkan instance has been created. -/
  | initInstance
  /-- The device's properties and `select_queue_family`. -/
  | selectQueueFamily
  /-- `init_device`, the queue and the command pool. -/
  | initDevice
  /-- `DeviceWaitIdle` and `DestroyCommandPool` of `on_instance_destroy`. -/
  | destroyCommandPool
  /-- The loop of `create_image`. -/
  | createImages
  /-- The loop of `export_image_handles` and `write_image_handles`. -/
  | exportImages
  /-- `QueueWaitIdle` and the loop that destroys the shared images. -/
  | destroyImages
  /-- The fence and the recording of the copy, with the look-ups of both images. -/
  | recordCopy
  /-- `QueueSubmit` of the copy. -/
  | submitCopy
deriving DecidableEq, Repr

/-- What the runtime and Vulkan answer while one request is handled. -/
structure Answers where
  /-- Whether `xrGetInstanceProcAddr` succeeds for a function. -/
  grants : Function → Bool
  /-- The result of each call of a function, counted from 0. -/
  result : Function → Nat → XrResult
  /-- The instance that `xrCreateInstance` writes, which is never `XR_NULL_HANDLE`. -/
  created : { handle : Nat // handle ≠ 0 }
  /-- The session or the swapchain that a creating function writes. -/
  handle : Nat
  /-- The number of events of unknown types that `xrPollEvent` returns first. -/
  dropped : Nat
  /-- The result of the call of `xrPollEvent` after these. -/
  polled : XrResult
  /-- The Vulkan result that a creating function writes. -/
  vkResult : Function → VkResult
  /-- How the parts that call only Vulkan end. -/
  vulkan : VulkanPart → Ending
  /-- Whether the outputs of a generated function can be serialized. -/
  serializes : Bool

namespace State

/-- The pointer that `xrGetInstanceProcAddr` returns for `loader_instance`. -/
def fetched (s : State) : Pointer := ⟨s.runtime.serial s.loaderInstance⟩

/-- A variable is filled. -/
def cache (s : State) (slot : Slot) : State :=
  { s with pointers := fun other => if other = slot then some s.fetched else s.pointers other }

/-- A call through a variable. -/
def record (s : State) (slot : Slot) : State :=
  { s with calls := s.calls ++ [⟨slot, s.pointers slot, s.runtime.live⟩] }

end State

/-- The process crashes. -/
def crash : Handler Unit := fun s => (none, { s with crashed := true })

/-- Go on if something succeeds, else throw. -/
def attempt (succeeds : Bool) : Handler Unit :=
  if succeeds then pure () else Program.throw

/-- Go on if a pointer that is read is not null. -/
def dereference (present : Bool) : Handler Unit :=
  if present then pure () else crash

/-- Code that calls only Vulkan. -/
def runPart (answers : Answers) (part : VulkanPart) : Handler Unit :=
  match answers.vulkan part with
  | .completed => pure ()
  | .threw => Program.throw
  | .crashed => crash

/-- `ensure_function_loaded`. -/
def ensureFunctionLoaded (answers : Answers) (slot : Slot) : Handler Unit := fun s =>
  if (s.pointers slot).isSome then (some (), s)
  else if answers.grants slot.function then (some (), s.cache slot)
  else (none, s)

/-- A call of the runtime function a variable points to. -/
def callPointer (slot : Slot) : Handler Unit := fun s =>
  if (s.pointers slot).isSome then (some (), s.record slot)
  else (none, { s.record slot with crashed := true })

/-- `start_message`, serializing and `flush`, while the transport is open. -/
def send (reply : Reply) : Handler Unit := fun s =>
  (some (), { s with replies := s.replies ++ [reply] })

end XrTransport.Server
