import Mathlib.Algebra.Group.Int.Defs
import XrTransport.Vulkan.Client.SwapchainState

/-!
# The server's copy of a released image

`handle_release_swapchain_image` of the Vulkan server module. The client has released an image of
the shared ring; the server acquires an image of the runtime's swapchain, records the copy, submits
it between the two semaphores of the shared image, and releases the runtime's image.
-/
namespace XrTransport.Vulkan.Server

open XrTransport.Vulkan.Client (Handle VkCommand)

/-- `SharedImage`: the objects of one image that the handler uses. -/
structure SharedImage where
  /-- Semaphore the client's release signals and the copy waits on. -/
  renderingDone : Handle
  /-- Semaphore the copy signals and the client's acquire waits on. -/
  copyingDone : Handle
  /-- Commands that copy the image. -/
  commandBuffer : Handle
  /-- Fence of the copy submission. -/
  commandBufferFence : Handle
deriving DecidableEq, Repr

/-- A call the handler makes to the runtime or to Vulkan. -/
inductive ServerCall where
  /-- A Vulkan command that the client's swapchain uses too. -/
  | vulkan (command : VkCommand)
  /-- `BeginCommandBuffer`. -/
  | beginCommandBuffer (commandBuffer : Handle)
  /-- `EndCommandBuffer`, after the barriers and the copy. -/
  | endCommandBuffer (commandBuffer : Handle)
  /-- `xrAcquireSwapchainImage`. -/
  | acquireSwapchainImage
  /-- `xrWaitSwapchainImage` with `XR_INFINITE_DURATION`. -/
  | waitSwapchainImage
  /-- `xrReleaseSwapchainImage`. -/
  | releaseSwapchainImage
deriving DecidableEq, Repr

/-- What the runtime and Vulkan answer. -/
structure Answers where
  /-- To Vulkan commands. -/
  vk : ServerCall → VkResult
  /-- To runtime functions. -/
  xr : ServerCall → XrResult
  /-- The index the runtime's acquire writes. -/
  acquired : Nat

/-- The result of a Vulkan command as the error texts show it. -/
def Answers.code (answers : Answers) (call : ServerCall) : String :=
  toString (answers.vk call).code

/-- The calls a handler has made, and the exception that has ended it. -/
structure Handled where
  /-- The calls in order. -/
  issued : List ServerCall
  /-- The exception. Without one the reply has been sent. -/
  thrown : Option String := none
deriving DecidableEq, Repr

/-- `SwapchainState`: the two rings of images. -/
structure SwapchainState where
  /-- The images shared with the client. -/
  sharedImages : List SharedImage
  /-- The handles of the runtime's images. -/
  runtimeImages : List Handle
deriving DecidableEq, Repr

namespace SharedImage

variable (image : SharedImage)

/-- `WaitForFences` without a timeout, for the last use of the command buffer. -/
def waitForFence : ServerCall := .vulkan (.waitForFences image.commandBufferFence (2 ^ 64 - 1))

/-- `ResetFences` of the same fence. -/
def resetFence : ServerCall := .vulkan (.resetFences image.commandBufferFence)

/-- The batch that copies the image. -/
def copySubmit : VkCommand :=
  .queueSubmit image.commandBuffer (some image.renderingDone) (some image.copyingDone)
    (some image.commandBufferFence)

end SharedImage

/-- `handle_release_swapchain_image`, once it has found the swapchain. The result of the runtime's
acquire is not looked at. -/
def handleReleaseSwapchainImage (answers : Answers) (state : SwapchainState) (srcIndex : Nat) :
    Handled :=
  let issued := [.acquireSwapchainImage]
  match state.sharedImages[srcIndex]? with
  | none => { issued, thrown := "vector::at" }
  | some image =>
    match state.runtimeImages[answers.acquired]? with
    | none => { issued, thrown := "vector::at" }
    | some _ =>
      let issued := issued ++ [image.waitForFence]
      if answers.vk image.waitForFence ≠ .success then
        { issued, thrown := "Failed to wait on fence: " ++ answers.code image.waitForFence }
      else
        let issued := issued ++ [image.resetFence]
        if answers.vk image.resetFence ≠ .success then
          { issued, thrown := "Failed to reset fence: " ++ answers.code image.resetFence }
        else
          let issued := issued ++ [.beginCommandBuffer image.commandBuffer]
          if answers.vk (.beginCommandBuffer image.commandBuffer) ≠ .success then
            { issued, thrown := "Failed to begin command buffer: " ++
                answers.code (.beginCommandBuffer image.commandBuffer) }
          else
            let issued := issued ++ [.endCommandBuffer image.commandBuffer]
            if answers.vk (.endCommandBuffer image.commandBuffer) ≠ .success then
              { issued, thrown := "Failed to end command buffer: " ++
                  answers.code (.endCommandBuffer image.commandBuffer) }
            else
              let issued := issued ++ [.waitSwapchainImage]
              if answers.xr .waitSwapchainImage ≠ .success then
                { issued, thrown := "Failed to wait for swapchain image: " ++
                    toString (answers.xr .waitSwapchainImage).code }
              else
                let issued := issued ++ [.vulkan image.copySubmit]
                if answers.vk (.vulkan image.copySubmit) ≠ .success then
                  { issued, thrown := "Failed to submit copy operation to queue: " ++
                      answers.code (.vulkan image.copySubmit) }
                else
                  let issued := issued ++ [.releaseSwapchainImage]
                  if ¬(answers.xr .releaseSwapchainImage).succeeded then
                    { issued, thrown := "Failed to release swapchain image: " ++
                        toString (answers.xr .releaseSwapchainImage).code }
                  else { issued }

/-- Answers under which every call succeeds. -/
def Answers.succeeding (acquired : Nat) : Answers :=
  { vk := fun _ => .success, xr := fun _ => .success, acquired }

/-- The Vulkan commands among calls. -/
def commands (calls : List ServerCall) : List VkCommand :=
  calls.filterMap fun call =>
    match call with
    | .vulkan command => some command
    | _ => none

/-- When every call succeeds, the copy is submitted once and the reply is sent. -/
theorem handleReleaseSwapchainImage_succeeding {state : SwapchainState} {srcIndex acquired : Nat}
    {image : SharedImage} (shared : state.sharedImages[srcIndex]? = some image)
    (runtime : acquired < state.runtimeImages.length) :
    (handleReleaseSwapchainImage (.succeeding acquired) state srcIndex).thrown = none ∧
      commands (handleReleaseSwapchainImage (.succeeding acquired) state srcIndex).issued =
        [.waitForFences image.commandBufferFence (2 ^ 64 - 1),
          .resetFences image.commandBufferFence, image.copySubmit] := by
  have good : XrResult.success.succeeded = true := by decide
  simp [handleReleaseSwapchainImage, shared, Answers.succeeding, List.getElem?_eq_getElem runtime,
    good, commands, SharedImage.waitForFence, SharedImage.resetFence]

end XrTransport.Vulkan.Server
