import XrTransport.Vulkan.Client.SwapchainState

/-!
# What both sides know of a swapchain

The create info of a swapchain, which the client and the server both look at, and the message that
the server answers a creation with.
-/
namespace XrTransport.Vulkan

open Vulkan.Client (Handle)

/-- `ImageType`. -/
inductive ImageType where
  /-- `COLOR`. -/
  | color
  /-- `DEPTH_STENCIL`. -/
  | depthStencil
deriving DecidableEq, Repr

/-- `XrSwapchainCreateInfo`, as far as the module looks at it. -/
structure SwapchainCreateInfo where
  /-- `createFlags`. -/
  createFlags : Nat
  /-- `usageFlags`. -/
  usageFlags : Nat
  /-- `width`. -/
  width : Nat
  /-- `height`. -/
  height : Nat
deriving DecidableEq, Repr

/-- `XR_SWAPCHAIN_USAGE_COLOR_ATTACHMENT_BIT`. -/
def colorAttachmentBit : Nat := 1

/-- `XR_SWAPCHAIN_USAGE_DEPTH_STENCIL_ATTACHMENT_BIT`. -/
def depthStencilAttachmentBit : Nat := 2

/-- `XR_SWAPCHAIN_CREATE_STATIC_IMAGE_BIT`. -/
def staticImageBit : Nat := 2

/-- What the server returns from the creation of a swapchain. What follows the result is only there
when it is `XR_SUCCESS`. -/
structure CreateSwapchainReturn where
  /-- `server_result`. -/
  result : XrResult
  /-- `handle`. -/
  handle : Handle := 0
  /-- `num_images`. -/
  numImages : Nat := 0
deriving DecidableEq, Repr

end XrTransport.Vulkan
