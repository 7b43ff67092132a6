import XrTransport.Vulkan.Client.Fences
import XrTransport.Vulkan.Server.ReleaseImage

/-!
# What a release leaves behind

The effects of the calls of `handle_release_swapchain_image` on the fences and on the number of
images that the runtime has given to the server, whatever the calls return.
-/
namespace XrTransport.Vulkan.Server

open XrTransport.Vulkan.Client (Handle Fence VkCommand)

/-- What the calls change. -/
structure Resources where
  /-- The fences of the shared images. -/
  fences : Handle → Fence
  /-- The images of the runtime that are acquired and not released. -/
  acquired : Int

namespace Resources

/-- A wait for a fence will end: it is signalled, or a submission will signal it. -/
def Live (resources : Resources) (fence : Handle) : Prop :=
  (resources.fences fence).signalled = true ∨ (resources.fences fence).pending = true

instance (resources : Resources) (fence : Handle) : Decidable (resources.Live fence) :=
  inferInstanceAs (Decidable (_ ∨ _))

/-- A fence is in another state. -/
def setFence (resources : Resources) (fence : Handle) (state : Fence) : Resources :=
  { resources with fences := Function.update resources.fences fence state }

/-- A Vulkan command that succeeds: a wait ends when the fence is signalled, and a submission is
going to signal its fence. -/
def command (resources : Resources) : VkCommand → Resources
  | .waitForFences fence _ => resources.setFence fence { signalled := true }
  | .resetFences fence => resources.setFence fence { signalled := false }
  | .queueSubmit _ _ _ (some fence) =>
    resources.setFence fence { resources.fences fence with pending := true }
  | .queueSubmit _ _ _ none => resources

/-- A call and what it returns: one that fails changes nothing. -/
def call (answers : Answers) (resources : Resources) : ServerCall → Resources
  | .vulkan command =>
    if answers.vk (.vulkan command) = .success then resources.command command else resources
  | .acquireSwapchainImage =>
    if (answers.xr .acquireSwapchainImage).succeeded then
      { resources with acquired := resources.acquired + 1 }
    else resources
  | .releaseSwapchainImage =>
    if (answers.xr .releaseSwapchainImage).succeeded then
      { resources with acquired := resources.acquired - 1 }
    else resources
  | .beginCommandBuffer _ | .endCommandBuffer _ | .waitSwapchainImage => resources

end Resources

/-- `handle_release_swapchain_image` of a message; without a swapchain when it cannot be decoded or
`get_swapchain_state` does not know its handle. -/
def handleRelease (answers : Answers) (found : Option SwapchainState) (srcIndex : Nat) : Handled :=
  match found with
  | none => { issued := [], thrown := some "bad optional access" }
  | some state => handleReleaseSwapchainImage answers state srcIndex

/-- The resources when the handler has ended. -/
def afterRelease (answers : Answers) (found : Option SwapchainState) (srcIndex : Nat)
    (before : Resources) : Resources :=
  (handleRelease answers found srcIndex).issued.foldl (Resources.call answers) before

/-- The fence of the shared image can be waited for again, and the server holds as many images as
before. -/
def Restored (found : Option SwapchainState) (srcIndex : Nat) (before after : Resources) : Prop :=
  (∀ image, (found.bind fun state => state.sharedImages[srcIndex]?) = some image →
    after.Live image.commandBufferFence) ∧
  after.acquired = before.acquired

/-- The runtime's acquire succeeds. -/
def Answers.acquires (answers : Answers) : Bool := (answers.xr .acquireSwapchainImage).succeeded

/-- The runtime's release succeeds. -/
def Answers.releases (answers : Answers) : Bool := (answers.xr .releaseSwapchainImage).succeeded

/-- Nothing fails between the reset of the fence and the submission. -/
def Answers.Submits (answers : Answers) (image : SharedImage) : Prop :=
  answers.vk (.beginCommandBuffer image.commandBuffer) = .success ∧
  answers.vk (.endCommandBuffer image.commandBuffer) = .success ∧
  answers.xr .waitSwapchainImage = .success ∧
  answers.vk (.vulkan image.copySubmit) = .success

/-- The condition on what the calls return and on the state before: a handler that stops before it
has reset the fence has not acquired an image, and one that goes on submits, and acquires if it
releases. -/
def Benign (answers : Answers) (found : Option SwapchainState) (srcIndex : Nat)
    (before : Resources) : Prop :=
  match found with
  | none => True
  | some state =>
    match state.sharedImages[srcIndex]? with
    | none => answers.acquires = false
    | some image =>
      if state.runtimeImages[answers.acquired]? = none ∨
          answers.vk image.waitForFence ≠ .success then
        answers.acquires = false ∧ before.Live image.commandBufferFence
      else if answers.vk image.resetFence ≠ .success then answers.acquires = false
      else answers.Submits image ∧ answers.acquires = answers.releases

/-- How many images a call that succeeds is worth. -/
def count (succeeds : Bool) : Int := if succeeds then 1 else 0

/-- Two calls that are worth the same both succeed or both fail. -/
theorem count_eq {one two : Bool} : count one = count two ↔ one = two := by
  cases one <;> cases two <;> decide

/-- Only a call that fails is worth nothing. -/
theorem count_eq_zero {succeeds : Bool} : count succeeds = 0 ↔ succeeds = false := by
  cases succeeds <;> decide

section Calls

variable {answers : Answers} {image : SharedImage} (resources : Resources)

/-- The acquire changes no fence. -/
theorem call_acquire : resources.call answers .acquireSwapchainImage =
    { resources with acquired := resources.acquired + count answers.acquires } := by
  cases acquires : answers.acquires with
  | false =>
    have fails : (answers.xr .acquireSwapchainImage).succeeded = false := acquires
    simp [Resources.call, fails, count]
  | true =>
    have succeeds : (answers.xr .acquireSwapchainImage).succeeded = true := acquires
    simp [Resources.call, succeeds, count]

/-- Nor does the release. -/
theorem call_release : resources.call answers .releaseSwapchainImage =
    { resources with acquired := resources.acquired - count answers.releases } := by
  cases releases : answers.releases with
  | false =>
    have fails : (answers.xr .releaseSwapchainImage).succeeded = false := releases
    simp [Resources.call, fails, count]
  | true =>
    have succeeds : (answers.xr .releaseSwapchainImage).succeeded = true := releases
    simp [Resources.call, succeeds, count]

/-- After a wait the fence is signalled. -/
theorem call_wait (waited : answers.vk image.waitForFence = .success) :
    resources.call answers image.waitForFence =
      resources.setFence image.commandBufferFence { signalled := true } :=
  if_pos waited

/-- A wait that fails changes nothing. -/
theorem call_wait_fails (failed : answers.vk image.waitForFence ≠ .success) :
    resources.call answers image.waitForFence = resources :=
  if_neg failed

/-- After a reset the fence is not. -/
theorem call_reset (reset : answers.vk image.resetFence = .success) :
    resources.call answers image.resetFence =
      resources.setFence image.commandBufferFence { signalled := false } :=
  if_pos reset

/-- A reset that fails changes nothing. -/
theorem call_reset_fails (failed : answers.vk image.resetFence ≠ .success) :
    resources.call answers image.resetFence = resources :=
  if_neg failed

/-- After the submission the fence is going to be signalled. -/
theorem call_submit (submitted : answers.vk (.vulkan image.copySubmit) = .success) :
    resources.call answers (.vulkan image.copySubmit) =
      resources.setFence image.commandBufferFence
        { resources.fences image.commandBufferFence with pending := true } :=
  if_pos submitted

/-- A submission that fails changes nothing. -/
theorem call_submit_fails (failed : answers.vk (.vulkan image.copySubmit) ≠ .success) :
    resources.call answers (.vulkan image.copySubmit) = resources :=
  if_neg failed

/-- To begin a command buffer changes nothing here. -/
theorem call_begin : resources.call answers (.beginCommandBuffer image.commandBuffer) = resources :=
  rfl

/-- Nor does it to end it. -/
theorem call_end : resources.call answers (.endCommandBuffer image.commandBuffer) = resources :=
  rfl

/-- Nor does the wait for the image of the runtime. -/
theorem call_waitImage : resources.call answers .waitSwapchainImage = resources := rfl

end Calls

/-- Of the shared images only the one at the index matters. -/
theorem restored_of_shared {state : SwapchainState} {srcIndex : Nat} {image : SharedImage}
    (shared : state.sharedImages[srcIndex]? = some image) {before after : Resources} :
    Restored (some state) srcIndex before after ↔
      after.Live image.commandBufferFence ∧ after.acquired = before.acquired := by
  simp [Restored, shared]

/-- The handler from the reset on: it submits or it leaves the fence unsignalled. -/
theorem afterReset {answers : Answers} {state : SwapchainState} {srcIndex : Nat}
    {image : SharedImage} {handle : Handle} (shared : state.sharedImages[srcIndex]? = some image)
    (runtime : state.runtimeImages[answers.acquired]? = some handle)
    (waited : answers.vk image.waitForFence = .success)
    (reset : answers.vk image.resetFence = .success) (before : Resources) :
    Restored (some state) srcIndex before (afterRelease answers (some state) srcIndex before) ↔
      answers.Submits image ∧ answers.acquires = answers.releases := by
  rw [restored_of_shared shared]
  simp only [afterRelease, handleRelease, handleReleaseSwapchainImage, shared, runtime, waited,
    reset, Answers.Submits]
  by_cases begun : answers.vk (.beginCommandBuffer image.commandBuffer) = .success
  case neg =>
    simp [begun, call_acquire, call_wait, call_reset, waited, reset, call_begin,
      Resources.setFence, Resources.Live]
  by_cases ended : answers.vk (.endCommandBuffer image.commandBuffer) = .success
  case neg =>
    simp [begun, ended, call_acquire, call_wait, call_reset, waited, reset, call_begin, call_end,
      Resources.setFence, Resources.Live]
  by_cases ready : answers.xr .waitSwapchainImage = .success
  case neg =>
    simp [begun, ended, ready, call_acquire, call_wait, call_reset, waited, reset, call_begin,
      call_end, call_waitImage, Resources.setFence, Resources.Live]
  by_cases submitted : answers.vk (.vulkan image.copySubmit) = .success
  case neg =>
    simp [begun, ended, ready, submitted, call_acquire, call_wait, call_reset, call_submit_fails,
      waited, reset, call_begin, call_end, call_waitImage, Resources.setFence, Resources.Live]
  have balance : before.acquired + count answers.acquires - count answers.releases =
      before.acquired ↔ answers.acquires = answers.releases := by
    rw [← count_eq]
    omega
  by_cases released : (answers.xr .releaseSwapchainImage).succeeded <;>
    simp [begun, ended, ready, submitted, released, call_acquire, call_release, call_wait,
      call_reset, call_submit, waited, reset, call_begin, call_end, call_waitImage,
      Resources.setFence, Resources.Live, balance]

/-- A handler ends with the fence alive and as many images acquired as before exactly under that
condition. -/
theorem restored_iff (answers : Answers) (found : Option SwapchainState) (srcIndex : Nat)
    (before : Resources) :
    Restored found srcIndex before (afterRelease answers found srcIndex before) ↔
      Benign answers found srcIndex before := by
  have kept : before.acquired + count answers.acquires = before.acquired ↔
      answers.acquires = false := by
    rw [← count_eq_zero]
    omega
  cases found with
  | none => simp [Restored, afterRelease, handleRelease, Benign]
  | some state =>
    simp only [Benign]
    cases shared : state.sharedImages[srcIndex]? with
    | none =>
      simp [Restored, afterRelease, handleRelease, handleReleaseSwapchainImage, shared,
        call_acquire, kept]
    | some image =>
      cases runtime : state.runtimeImages[answers.acquired]? with
      | none =>
        simp [Restored, afterRelease, handleRelease, handleReleaseSwapchainImage, shared, runtime,
          call_acquire, kept, Resources.Live, and_comm]
      | some handle =>
        by_cases waited : answers.vk image.waitForFence = .success
        case neg =>
          simp [Restored, afterRelease, handleRelease, handleReleaseSwapchainImage, shared,
            runtime, waited, call_acquire, call_wait_fails, kept, Resources.Live, and_comm]
        by_cases reset : answers.vk image.resetFence = .success
        case neg =>
          simp [Restored, afterRelease, handleRelease, handleReleaseSwapchainImage, shared,
            runtime, waited, reset, call_acquire, call_wait, call_reset_fails, kept,
            Resources.setFence, Resources.Live]
        have after := afterReset shared runtime waited reset before
        simpa [waited, reset] using after

/-- One image, whose fence is signalled. -/
def oneImage : SwapchainState := { sharedImages := [⟨1, 2, 3, 4⟩], runtimeImages := [5] }

/-- The end of the command buffer fails. -/
def endFails : Answers :=
  { Answers.succeeding 0 with
    vk := fun call => if call = .endCommandBuffer 3 then ⟨-1⟩ else .success }

/-- Then the fence is left unsignalled for good, and the acquired image is not released. -/
theorem endFails_unrestored :
    ¬∀ (answers : Answers) (found : Option SwapchainState) (srcIndex : Nat) (before : Resources),
      (∀ fence, before.Live fence) →
      Restored found srcIndex before (afterRelease answers found srcIndex before) := by
  intro always
  have restored := always endFails (some oneImage) 0 ⟨fun _ => { signalled := true }, 0⟩
    fun _ => .inl rfl
  exact absurd restored.2 (by decide)

end XrTransport.Vulkan.Server
