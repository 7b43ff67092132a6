import XrTransport.OpenXr
import XrTransport.Foundation.Mealy

/-!
# The client's swapchain state

`SwapchainState` of the Vulkan client module serves an application's acquire, wait and release
calls from a ring of images shared with the server. Three heads and a counter record which
images are acquired. Each call checks the call order, issues Vulkan commands and moves its head
only when they succeed. The mutex makes every call one step.
-/
namespace XrTransport.Vulkan.Client

/-- A Vulkan object handle. -/
abbrev Handle := Nat

/-- `SwapchainImage`: the objects of one image that the three calls use. -/
structure SwapchainImage where
  /-- Semaphore the client's release signals and the server's copy waits on. -/
  renderingDone : Handle
  /-- Semaphore the server's copy signals and the client's acquire waits on. -/
  copyingDone : Handle
  /-- Fence of the acquire submission. -/
  copyingDoneFence : Handle
  /-- Commands that take the image back from the server. -/
  acquireCommandBuffer : Handle
  /-- Commands that hand the image to the server. -/
  releaseCommandBuffer : Handle
  /-- Whether an acquire has been attempted, so that later ones wait on `copyingDone`. -/
  hasBeenAcquired : Bool := false
deriving DecidableEq, Repr

/-- A Vulkan command issued by a call. -/
inductive VkCommand where
  /-- `QueueSubmit` of one batch: its command buffer, wait and signal semaphores and fence. -/
  | queueSubmit (commandBuffer : Handle) (wait signal fence : Option Handle)
  /-- `WaitForFences` on one fence. -/
  | waitForFences (fence : Handle) (timeout : Int)
  /-- `ResetFences` of one fence. -/
  | resetFences (fence : Handle)
deriving DecidableEq, Repr

/-- `SwapchainState`: the fields the three calls read and write. Every head and counter is a
`uint32_t` in the source; they stay at most the number of images, which the server sends as a
`uint32_t`, so no sum of the source wraps. -/
structure SwapchainState where
  /-- The ring of images. -/
  images : List SwapchainImage
  /-- A static swapchain's image can be acquired only once. -/
  isStatic : Bool
  /-- How many images are acquired. -/
  numAcquired : Nat := 0
  /-- The image the next acquire hands out. -/
  acquireHead : Nat := 0
  /-- The image the next wait waits on. -/
  waitHead : Nat := 0
  /-- The image the next release hands over. -/
  releaseHead : Nat := 0
deriving DecidableEq, Repr

/-- What a call leaves behind: its result code, the index it wrote, the commands it issued and
the state. -/
structure CallOutcome where
  /-- The returned code. -/
  result : XrResult
  /-- `index_out`, written by a successful acquire or release. -/
  index : Option Nat := none
  /-- Commands in the order issued. -/
  issued : List VkCommand := []
  /-- The state after the call. -/
  state : SwapchainState
deriving DecidableEq, Repr

/-- A driver answers each command with a result code. -/
abbrev Driver := VkCommand → VkResult

namespace SwapchainState

/-- `SwapchainState::SwapchainState`: fresh images, no image acquired. -/
def create (images : List SwapchainImage) (isStatic : Bool) : SwapchainState :=
  { images, isStatic }

/-- `images[index]`: an index past the end is undefined behaviour, `none` here. -/
def image? (s : SwapchainState) (index : Nat) : Option SwapchainImage := s.images[index]?

/-- A call refused by the call order leaves the state as it is. -/
def refuse (s : SwapchainState) (result : XrResult) (issued : List VkCommand := []) :
    CallOutcome := { result, issued, state := s }

/-- The state with the flag of `image`, the one at the acquire head, set. -/
def marked (s : SwapchainState) (image : SwapchainImage) : SwapchainState :=
  { s with images := s.images.set s.acquireHead { image with hasBeenAcquired := true } }

/-- The state after a successful acquire of `image`. -/
def acquired (s : SwapchainState) (image : SwapchainImage) : SwapchainState :=
  { s.marked image with
    acquireHead := (s.acquireHead + 1) % s.images.length
    numAcquired := s.numAcquired + 1 }

/-- The batch an acquire submits. The semaphore is not waited on the first time. -/
def acquireSubmit (image : SwapchainImage) : VkCommand :=
  .queueSubmit image.acquireCommandBuffer
    (if image.hasBeenAcquired then some image.copyingDone else none) none
    (some image.copyingDoneFence)

/-- `SwapchainState::acquire`: submit the acquire commands of the image at the acquire head and
hand it out. The flag is set before the submission, whatever the driver answers. -/
def acquire (vk : Driver) (s : SwapchainState) : Option CallOutcome :=
  if s.images.length ≤ s.numAcquired then
    some (s.refuse .callOrderInvalid)
  else
    match s.image? s.acquireHead with
    | none => none
    | some image =>
      if s.isStatic = true ∧ image.hasBeenAcquired = true then
        some (s.refuse .callOrderInvalid)
      else if vk (acquireSubmit image) ≠ .success then
        some ((s.marked image).refuse .runtimeFailure [acquireSubmit image])
      else
        some {
          result := .success
          index := some s.acquireHead
          issued := [acquireSubmit image]
          state := s.acquired image }

/-- The state after a successful wait. -/
def waited (s : SwapchainState) : SwapchainState :=
  { s with waitHead := (s.waitHead + 1) % s.images.length }

/-- `SwapchainState::wait`: wait for the fence of the image at the wait head. The wait head may
be at most one image ahead of the release head. -/
def wait (vk : Driver) (timeout : Int) (s : SwapchainState) : Option CallOutcome :=
  if s.numAcquired = 0 then
    some (s.refuse .callOrderInvalid)
  else if s.waitHead ≠ s.releaseHead then
    some (s.refuse .callOrderInvalid)
  else
    match s.image? s.waitHead with
    | none => none
    | some image =>
      let command := .waitForFences image.copyingDoneFence timeout
      if vk command = .timeout then
        some (s.refuse .timeoutExpired [command])
      else if vk command ≠ .success then
        some (s.refuse .runtimeFailure [command])
      else
        some { result := .success, issued := [command], state := s.waited }

/-- The state after a successful release. -/
def released (s : SwapchainState) : SwapchainState :=
  { s with
    releaseHead := (s.releaseHead + 1) % s.images.length
    numAcquired := s.numAcquired - 1 }

/-- The batch a release submits. -/
def releaseSubmit (image : SwapchainImage) : VkCommand :=
  .queueSubmit image.releaseCommandBuffer none (some image.renderingDone) none

/-- `SwapchainState::release`: reset the fence of the image at the release head, submit its
release commands and hand it over. The fence is reset here and not in an acquire, so that it
stays signalled until the first release. -/
def release (vk : Driver) (s : SwapchainState) : Option CallOutcome :=
  if s.numAcquired = 0 then
    some (s.refuse .callOrderInvalid)
  else if s.waitHead ≠ (s.releaseHead + 1) % s.images.length then
    some (s.refuse .callOrderInvalid)
  else
    match s.image? s.releaseHead with
    | none => none
    | some image =>
      let reset := .resetFences image.copyingDoneFence
      if vk reset ≠ .success then
        some (s.refuse .runtimeFailure [reset])
      else if vk (releaseSubmit image) ≠ .success then
        some (s.refuse .runtimeFailure [reset, releaseSubmit image])
      else
        some {
          result := .success
          index := some s.releaseHead
          issued := [reset, releaseSubmit image]
          state := s.released }

variable {vk : Driver} {s : SwapchainState} {image : SwapchainImage} {outcome : CallOutcome}

/-- An acquire with every image acquired is refused. -/
theorem acquire_full (vk : Driver) (full : s.images.length ≤ s.numAcquired) :
    s.acquire vk = some (s.refuse .callOrderInvalid) := by
  simp [acquire, full]

/-- A second acquire of a static swapchain's image is refused. -/
theorem acquire_spent (vk : Driver) (space : ¬s.images.length ≤ s.numAcquired)
    (found : s.images[s.acquireHead]? = some image)
    (spent : s.isStatic = true ∧ image.hasBeenAcquired = true) :
    s.acquire vk = some (s.refuse .callOrderInvalid) := by
  simp [acquire, space, image?, found, spent]

/-- An acquire in order whose submission succeeds hands out the image at the acquire head. -/
theorem acquire_succeeds (space : ¬s.images.length ≤ s.numAcquired)
    (found : s.images[s.acquireHead]? = some image)
    (unspent : ¬(s.isStatic = true ∧ image.hasBeenAcquired = true))
    (answer : vk (acquireSubmit image) = .success) :
    s.acquire vk = some {
      result := .success
      index := some s.acquireHead
      issued := [acquireSubmit image]
      state := s.acquired image } := by
  simp only [acquire, if_neg space, image?, found, if_neg unspent, answer, ne_eq,
    not_true_eq_false, ↓reduceIte]

/-- A wait out of order is refused. -/
theorem wait_refused (vk : Driver) (timeout : Int)
    (order : s.numAcquired = 0 ∨ s.waitHead ≠ s.releaseHead) :
    s.wait vk timeout = some (s.refuse .callOrderInvalid) := by
  rcases order with none | ahead
  · simp [wait, none]
  · simp [wait, ahead]

/-- A wait in order whose fence is signalled in time moves the wait head. -/
theorem wait_succeeds (timeout : Int) (held : s.numAcquired ≠ 0)
    (heads : s.waitHead = s.releaseHead) (found : s.images[s.waitHead]? = some image)
    (answer : vk (.waitForFences image.copyingDoneFence timeout) = .success) :
    s.wait vk timeout = some {
      result := .success
      issued := [.waitForFences image.copyingDoneFence timeout]
      state := s.waited } := by
  have late : VkResult.success ≠ .timeout := by decide
  simp only [wait, if_neg held, heads, ne_eq, not_true_eq_false, ↓reduceIte, image?]
  rw [← heads, found]
  simp [answer, late]

/-- A release out of order is refused. -/
theorem release_refused (vk : Driver)
    (order : s.numAcquired = 0 ∨ s.waitHead ≠ (s.releaseHead + 1) % s.images.length) :
    s.release vk = some (s.refuse .callOrderInvalid) := by
  rcases order with none | behind
  · simp [release, none]
  · simp [release, behind]

/-- A release in order whose commands succeed hands over the image at the release head. -/
theorem release_succeeds (held : s.numAcquired ≠ 0)
    (heads : s.waitHead = (s.releaseHead + 1) % s.images.length)
    (found : s.images[s.releaseHead]? = some image)
    (reset : vk (.resetFences image.copyingDoneFence) = .success)
    (submit : vk (releaseSubmit image) = .success) :
    s.release vk = some {
      result := .success
      index := some s.releaseHead
      issued := [.resetFences image.copyingDoneFence, releaseSubmit image]
      state := s.released } := by
  simp [release, held, heads, image?, found, reset, submit]

/-- The ways an acquire ends. -/
inductive Acquires (vk : Driver) (s : SwapchainState) : CallOutcome → Prop
  /-- Every image is acquired. -/
  | full (full : s.images.length ≤ s.numAcquired) : Acquires vk s (s.refuse .callOrderInvalid)
  /-- The image of a static swapchain has been acquired before. -/
  | spent (image : SwapchainImage) (space : s.numAcquired < s.images.length)
      (found : s.images[s.acquireHead]? = some image)
      (spent : s.isStatic = true ∧ image.hasBeenAcquired = true) :
      Acquires vk s (s.refuse .callOrderInvalid)
  /-- The submission fails. -/
  | fails (image : SwapchainImage) (space : s.numAcquired < s.images.length)
      (found : s.images[s.acquireHead]? = some image)
      (unspent : ¬(s.isStatic = true ∧ image.hasBeenAcquired = true))
      (answer : vk (acquireSubmit image) ≠ .success) :
      Acquires vk s ((s.marked image).refuse .runtimeFailure [acquireSubmit image])
  /-- The image is handed out. -/
  | succeeds (image : SwapchainImage) (space : s.numAcquired < s.images.length)
      (found : s.images[s.acquireHead]? = some image)
      (unspent : ¬(s.isStatic = true ∧ image.hasBeenAcquired = true))
      (answer : vk (acquireSubmit image) = .success) :
      Acquires vk s {
        result := .success
        index := some s.acquireHead
        issued := [acquireSubmit image]
        state := s.acquired image }

/-- An acquire that is answered ends in one of these ways. -/
theorem acquire_cases (answered : s.acquire vk = some outcome) : Acquires vk s outcome := by
  by_cases full : s.images.length ≤ s.numAcquired
  · rw [acquire_full vk full] at answered
    cases answered
    exact .full full
  · have space : s.numAcquired < s.images.length := Nat.not_le.mp full
    cases found : s.images[s.acquireHead]? with
    | none => simp [acquire, full, image?, found] at answered
    | some image =>
      by_cases spent : s.isStatic = true ∧ image.hasBeenAcquired = true
      · rw [acquire_spent vk full found spent] at answered
        cases answered
        exact .spent image space found spent
      · by_cases answer : vk (acquireSubmit image) = .success
        · rw [acquire_succeeds full found spent answer] at answered
          cases answered
          exact .succeeds image space found spent answer
        · simp only [acquire, if_neg full, image?, found, if_neg spent, ne_eq, answer,
            not_false_eq_true, ↓reduceIte] at answered
          cases answered
          exact .fails image space found spent answer

/-- An acquire is answered when its head is an index of the ring. -/
theorem acquire_answered (vk : Driver)
    (inside : s.numAcquired < s.images.length → s.acquireHead < s.images.length) :
    ∃ outcome, s.acquire vk = some outcome := by
  by_cases full : s.images.length ≤ s.numAcquired
  · exact ⟨_, acquire_full vk full⟩
  · have found := List.getElem?_eq_getElem (inside (Nat.not_le.mp full))
    simp only [acquire, if_neg full, image?, found]
    split
    · exact ⟨_, rfl⟩
    · split <;> exact ⟨_, rfl⟩

/-- The ways a wait ends. -/
inductive Waits (vk : Driver) (timeout : Int) (s : SwapchainState) : CallOutcome → Prop
  /-- No image is acquired, or the oldest has been waited on. -/
  | refused (order : s.numAcquired = 0 ∨ s.waitHead ≠ s.releaseHead) :
      Waits vk timeout s (s.refuse .callOrderInvalid)
  /-- The fence is not signalled, for want of time or another reason. -/
  | fails (image : SwapchainImage) (result : XrResult) (held : s.numAcquired ≠ 0)
      (heads : s.waitHead = s.releaseHead) (found : s.images[s.waitHead]? = some image)
      (answer : vk (.waitForFences image.copyingDoneFence timeout) ≠ .success)
      (failed : result ≠ .success) :
      Waits vk timeout s (s.refuse result [.waitForFences image.copyingDoneFence timeout])
  /-- The fence is signalled. -/
  | succeeds (image : SwapchainImage) (held : s.numAcquired ≠ 0)
      (heads : s.waitHead = s.releaseHead) (found : s.images[s.waitHead]? = some image)
      (answer : vk (.waitForFences image.copyingDoneFence timeout) = .success) :
      Waits vk timeout s {
        result := .success
        issued := [.waitForFences image.copyingDoneFence timeout]
        state := s.waited }

/-- A wait that is answered ends in one of these ways. -/
theorem wait_cases {timeout : Int} (answered : s.wait vk timeout = some outcome) :
    Waits vk timeout s outcome := by
  by_cases order : s.numAcquired = 0 ∨ s.waitHead ≠ s.releaseHead
  · rw [wait_refused vk timeout order] at answered
    cases answered
    exact .refused order
  · have held : s.numAcquired ≠ 0 := fun none => order (.inl none)
    have heads : s.waitHead = s.releaseHead :=
      Decidable.byContradiction fun apart => order (.inr apart)
    cases at_release : s.images[s.releaseHead]? with
    | none => simp [wait, held, heads, image?, at_release] at answered
    | some image =>
      have found : s.images[s.waitHead]? = some image := heads ▸ at_release
      by_cases answer : vk (.waitForFences image.copyingDoneFence timeout) = .success
      · rw [wait_succeeds timeout held heads found answer] at answered
        cases answered
        exact .succeeds image held heads found answer
      · by_cases late : vk (.waitForFences image.copyingDoneFence timeout) = .timeout
        · simp only [wait, if_neg held, ne_eq, heads, not_true_eq_false, ↓reduceIte, image?,
            at_release, late] at answered
          cases answered
          exact .fails image .timeoutExpired held heads found answer (by decide)
        · simp only [wait, if_neg held, ne_eq, heads, not_true_eq_false, ↓reduceIte, image?,
            at_release, late, answer, not_false_eq_true] at answered
          cases answered
          exact .fails image .runtimeFailure held heads found answer (by decide)

/-- A wait is answered when its head is an index of the ring. -/
theorem wait_answered (vk : Driver) (timeout : Int)
    (inside : s.numAcquired ≠ 0 → s.waitHead < s.images.length) :
    ∃ outcome, s.wait vk timeout = some outcome := by
  by_cases order : s.numAcquired = 0 ∨ s.waitHead ≠ s.releaseHead
  · exact ⟨_, wait_refused vk timeout order⟩
  · have held : s.numAcquired ≠ 0 := fun none => order (.inl none)
    have heads : ¬s.waitHead ≠ s.releaseHead := fun apart => order (.inr apart)
    have found := List.getElem?_eq_getElem (inside held)
    simp only [wait, if_neg held, if_neg heads, image?, found]
    split
    · exact ⟨_, rfl⟩
    · split <;> exact ⟨_, rfl⟩

/-- The ways a release ends. -/
inductive Releases (vk : Driver) (s : SwapchainState) : CallOutcome → Prop
  /-- No image is acquired, or the oldest has not been waited on. -/
  | refused (order : s.numAcquired = 0 ∨ s.waitHead ≠ (s.releaseHead + 1) % s.images.length) :
      Releases vk s (s.refuse .callOrderInvalid)
  /-- The fence is not reset. -/
  | resetFails (image : SwapchainImage) (held : s.numAcquired ≠ 0)
      (heads : s.waitHead = (s.releaseHead + 1) % s.images.length)
      (found : s.images[s.releaseHead]? = some image)
      (reset : vk (.resetFences image.copyingDoneFence) ≠ .success) :
      Releases vk s (s.refuse .runtimeFailure [.resetFences image.copyingDoneFence])
  /-- The submission fails. -/
  | submitFails (image : SwapchainImage) (held : s.numAcquired ≠ 0)
      (heads : s.waitHead = (s.releaseHead + 1) % s.images.length)
      (found : s.images[s.releaseHead]? = some image)
      (reset : vk (.resetFences image.copyingDoneFence) = .success)
      (submit : vk (releaseSubmit image) ≠ .success) :
      Releases vk s
        (s.refuse .runtimeFailure [.resetFences image.copyingDoneFence, releaseSubmit image])
  /-- The image is handed over. -/
  | succeeds (image : SwapchainImage) (held : s.numAcquired ≠ 0)
      (heads : s.waitHead = (s.releaseHead + 1) % s.images.length)
      (found : s.images[s.releaseHead]? = some image)
      (reset : vk (.resetFences image.copyingDoneFence) = .success)
      (submit : vk (releaseSubmit image) = .success) :
      Releases vk s {
        result := .success
        index := some s.releaseHead
        issued := [.resetFences image.copyingDoneFence, releaseSubmit image]
        state := s.released }

/-- A release that is answered ends in one of these ways. -/
theorem release_cases (answered : s.release vk = some outcome) : Releases vk s outcome := by
  by_cases order : s.numAcquired = 0 ∨ s.waitHead ≠ (s.releaseHead + 1) % s.images.length
  · rw [release_refused vk order] at answered
    cases answered
    exact .refused order
  · have held : s.numAcquired ≠ 0 := fun none => order (.inl none)
    have heads : s.waitHead = (s.releaseHead + 1) % s.images.length :=
      Decidable.byContradiction fun apart => order (.inr apart)
    cases found : s.images[s.releaseHead]? with
    | none => simp [release, held, heads, image?, found] at answered
    | some image =>
      by_cases reset : vk (.resetFences image.copyingDoneFence) = .success
      · by_cases submit : vk (releaseSubmit image) = .success
        · rw [release_succeeds held heads found reset submit] at answered
          cases answered
          exact .succeeds image held heads found reset submit
        · simp only [release, if_neg held, ne_eq, heads, not_true_eq_false, ↓reduceIte, image?,
            found, reset, submit, not_false_eq_true] at answered
          cases answered
          exact .submitFails image held heads found reset submit
      · simp only [release, if_neg held, ne_eq, heads, not_true_eq_false, ↓reduceIte, image?,
          found, reset, not_false_eq_true] at answered
        cases answered
        exact .resetFails image held heads found reset

/-- A release is answered when its head is an index of the ring. -/
theorem release_answered (vk : Driver)
    (inside : s.numAcquired ≠ 0 → s.releaseHead < s.images.length) :
    ∃ outcome, s.release vk = some outcome := by
  by_cases order : s.numAcquired = 0 ∨ s.waitHead ≠ (s.releaseHead + 1) % s.images.length
  · exact ⟨_, release_refused vk order⟩
  · have held : s.numAcquired ≠ 0 := fun none => order (.inl none)
    have heads : ¬s.waitHead ≠ (s.releaseHead + 1) % s.images.length :=
      fun apart => order (.inr apart)
    have found := List.getElem?_eq_getElem (inside held)
    simp only [release, if_neg held, if_neg heads, image?, found]
    split
    · exact ⟨_, rfl⟩
    · split <;> exact ⟨_, rfl⟩

end SwapchainState

/-- A call of the application on one swapchain. -/
inductive Call where
  /-- `xrAcquireSwapchainImage`. -/
  | acquire
  /-- `xrWaitSwapchainImage` with its timeout. -/
  | wait (timeout : Int)
  /-- `xrReleaseSwapchainImage`. -/
  | release
deriving DecidableEq, Repr

/-- The swapchain's answer to one call. -/
def SwapchainState.call (vk : Driver) (s : SwapchainState) : Call → Option CallOutcome
  | .acquire => s.acquire vk
  | .wait timeout => s.wait vk timeout
  | .release => s.release vk

end XrTransport.Vulkan.Client
