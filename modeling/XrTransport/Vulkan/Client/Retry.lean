import Mathlib.Logic.Function.Basic
import XrTransport.Vulkan.Client.SwapchainState

/-!
# What a failed swapchain call leaves behind

A call that fails should leave the swapchain as it was, so that the application can repeat it. Two
calls update the swapchain before the step that may fail: an acquire sets the flag of its image
before it submits, and `xrReleaseSwapchainImageImpl` moves the release head before it tells the
server.
-/
namespace XrTransport.Vulkan.Client

/-- The swapchains and sessions that `xrReleaseSwapchainImageImpl` looks up. -/
structure Layer where
  /-- `get_swapchain_state`: a swapchain with its `parent_handle`. -/
  swapchainStates : Handle → Option (Handle × SwapchainState)
  /-- Whether `get_session_state` finds a session. -/
  sessionStates : Handle → Bool

/-- A swapchain's entry after one of its methods. -/
def Layer.store (layer : Layer) (swapchain parentHandle : Handle) (s : SwapchainState) : Layer :=
  { layer with
    swapchainStates :=
      Function.update layer.swapchainStates swapchain (some (parentHandle, s)) }

/-- What answers the calls that the layer makes. -/
structure Surroundings where
  /-- Vulkan. -/
  vk : Driver
  /-- `pfn_xrReleaseSwapchainImage_next`, if there is a next layer. -/
  releaseNext : Option (Handle → XrResult)
  /-- Whether the exchange with the server about an index ends without an exception. -/
  exchange : Handle → Nat → Bool

/-- `xrReleaseSwapchainImageImpl`. An exception is caught around the whole body. -/
def xrReleaseSwapchainImageImpl (around : Surroundings) (swapchain : Handle) (layer : Layer) :
    Option (XrResult × Layer) :=
  match layer.swapchainStates swapchain with
  | none =>
    match around.releaseNext with
    | some next => some (next swapchain, layer)
    | none => some (.handleInvalid, layer)
  | some (parentHandle, s) =>
    -- `value()` throws where there is no session
    if layer.sessionStates parentHandle = false then some (.runtimeFailure, layer)
    else
      match s.release around.vk with
      | none => none
      | some outcome =>
        if outcome.result ≠ .success then
          some (outcome.result, layer.store swapchain parentHandle outcome.state)
        else if around.exchange swapchain (outcome.index.getD 0) = false then
          some (.runtimeFailure, layer.store swapchain parentHandle outcome.state)
        else some (.success, layer.store swapchain parentHandle outcome.state)

/-- A call that may fail: a method of a swapchain, or the layer's release function. -/
inductive Attempt where
  /-- `SwapchainState::acquire`, `wait` or `release`. -/
  | method (s : SwapchainState) (input : Call)
  /-- `xrReleaseSwapchainImageImpl`. -/
  | xrReleaseSwapchainImage (layer : Layer) (swapchain : Handle)

namespace Attempt

/-- When the call fails, it has changed nothing, and a second one issues what the first would have
issued. -/
def Retryable (around : Surroundings) : Attempt → Prop
  | .method s input =>
    ∀ outcome, s.call around.vk input = some outcome → outcome.result ≠ .success →
      outcome.state = s ∧
        ∀ later, (outcome.state.call later input).map (·.issued) =
          (s.call later input).map (·.issued)
  | .xrReleaseSwapchainImage layer swapchain =>
    ∀ result after, xrReleaseSwapchainImageImpl around swapchain layer = some (result, after) →
      result.succeeded = false → after = layer

/-- The call gets as far as an update of the swapchain and then fails: an acquire whose image has
not been acquired before and whose submission fails, or a release that succeeds on this side and
whose exchange with the server throws. -/
def FailsAfterUpdate (around : Surroundings) : Attempt → Prop
  | .method s .acquire =>
    s.numAcquired < s.images.length ∧ ∃ image, s.images[s.acquireHead]? = some image ∧
      image.hasBeenAcquired = false ∧ around.vk (SwapchainState.acquireSubmit image) ≠ .success
  | .method _ _ => False
  | .xrReleaseSwapchainImage layer swapchain =>
    ∃ parentHandle s, layer.swapchainStates swapchain = some (parentHandle, s) ∧
      layer.sessionStates parentHandle = true ∧ s.numAcquired ≠ 0 ∧
      s.waitHead = (s.releaseHead + 1) % s.images.length ∧
      ∃ image, s.images[s.releaseHead]? = some image ∧
        around.vk (.resetFences image.copyingDoneFence) = .success ∧
        around.vk (SwapchainState.releaseSubmit image) = .success ∧
        around.exchange swapchain s.releaseHead = false

end Attempt

namespace SwapchainState

variable {s : SwapchainState} {image : SwapchainImage}

/-- Setting a flag that is set changes nothing. -/
theorem marked_eq_self (found : s.images[s.acquireHead]? = some image)
    (set : image.hasBeenAcquired = true) : s.marked image = s := by
  have same : { image with hasBeenAcquired := true } = image := by
    cases image
    simp only at set
    rw [set]
  obtain ⟨inside, at_head⟩ := List.getElem?_eq_some_iff.mp found
  have kept : s.images.set s.acquireHead image = s.images := by
    rw [← at_head, List.set_getElem_self]
  simp only [marked, same, kept]

/-- Setting a flag that is not set changes the swapchain. -/
theorem marked_ne_self (found : s.images[s.acquireHead]? = some image)
    (unset : image.hasBeenAcquired = false) : s.marked image ≠ s := by
  intro same
  obtain ⟨inside, at_head⟩ := List.getElem?_eq_some_iff.mp found
  have images : s.images.set s.acquireHead { image with hasBeenAcquired := true } = s.images :=
    congrArg SwapchainState.images same
  have at_index := congrArg (fun images => images[s.acquireHead]?) images
  simp only [List.getElem?_set_self inside, found, Option.some.injEq] at at_index
  have flag := congrArg SwapchainImage.hasBeenAcquired at_index
  rw [unset] at flag
  cases flag

/-- A release that counts an image changes the swapchain. -/
theorem released_ne_self (held : s.numAcquired ≠ 0) : s.released ≠ s := by
  intro same
  have count : s.numAcquired - 1 = s.numAcquired := congrArg numAcquired same
  omega

end SwapchainState

namespace Layer

variable {layer : Layer} {swapchain parentHandle : Handle} {s next : SwapchainState}

/-- A swapchain that keeps its state leaves the layer as it is. -/
theorem store_eq_self (registered : layer.swapchainStates swapchain = some (parentHandle, s)) :
    layer.store swapchain parentHandle s = layer := by
  simp only [store, ← registered, Function.update_eq_self]

/-- A swapchain that changes its state changes the layer. -/
theorem store_ne_self (registered : layer.swapchainStates swapchain = some (parentHandle, s))
    (changed : next ≠ s) : layer.store swapchain parentHandle next ≠ layer := by
  intro same
  have entry := congrArg (fun layer : Layer => layer.swapchainStates swapchain) same
  simp only [store, Function.update_self, registered, Option.some.injEq, Prod.mk.injEq,
    true_and] at entry
  exact changed entry

end Layer

namespace Attempt

variable {around : Surroundings} {s : SwapchainState}

/-- A call that leaves the swapchain as it was can be repeated. -/
theorem retryable_of_kept {input : Call}
    (kept : ∀ outcome, s.call around.vk input = some outcome → outcome.result ≠ .success →
      outcome.state = s) : (Attempt.method s input).Retryable around := by
  intro outcome answered failed
  have same := kept outcome answered failed
  exact ⟨same, fun later => by rw [same]⟩

/-- A failed acquire can be retried unless it was the first of its image and the submission failed.
-/
theorem acquire_retryable_iff :
    (Attempt.method s .acquire).Retryable around ↔
      ¬(Attempt.method s .acquire).FailsAfterUpdate around := by
  constructor
  · rintro retryable ⟨space, image, found, unset, answer⟩
    have unspent : ¬(s.isStatic = true ∧ image.hasBeenAcquired = true) := by
      rintro ⟨_, set⟩
      rw [unset] at set
      cases set
    have full : ¬s.images.length ≤ s.numAcquired := Nat.not_le.mpr space
    have answered : s.call around.vk .acquire = some
        ((s.marked image).refuse .runtimeFailure [SwapchainState.acquireSubmit image]) := by
      simp only [SwapchainState.call, SwapchainState.acquire, if_neg full, SwapchainState.image?,
        found, if_neg unspent, ne_eq, answer, not_false_eq_true, ↓reduceIte]
    have failed : XrResult.runtimeFailure ≠ .success := by decide
    have kept := (retryable _ answered failed).1
    exact SwapchainState.marked_ne_self found unset kept
  · intro fine
    apply retryable_of_kept
    intro outcome answered failed
    cases SwapchainState.acquire_cases answered with
    | full | spent => rfl
    | fails image space found unspent answer =>
      have set : image.hasBeenAcquired = true := by
        by_contra unset
        exact fine ⟨space, image, found, by simpa using unset, answer⟩
      exact SwapchainState.marked_eq_self found set
    | succeeds => exact absurd rfl failed

/-- A failed wait can be retried. -/
theorem wait_retryable (timeout : Int) : (Attempt.method s (.wait timeout)).Retryable around := by
  apply retryable_of_kept
  intro outcome answered failed
  cases SwapchainState.wait_cases answered with
  | refused | fails => rfl
  | succeeds => exact absurd rfl failed

/-- A failed release keeps the swapchain. -/
theorem release_kept {vk : Driver} {outcome : CallOutcome}
    (answered : s.release vk = some outcome) (failed : outcome.result ≠ .success) :
    outcome.state = s := by
  cases SwapchainState.release_cases answered with
  | refused | resetFails | submitFails => rfl
  | succeeds => exact absurd rfl failed

/-- The layer's release function leaves the layer as it was when it fails, unless it has released
the image and the exchange throws. -/
theorem xrRelease_retryable_iff {layer : Layer} {swapchain : Handle} :
    (Attempt.xrReleaseSwapchainImage layer swapchain).Retryable around ↔
      ¬(Attempt.xrReleaseSwapchainImage layer swapchain).FailsAfterUpdate around := by
  constructor
  · rintro retryable
      ⟨parentHandle, s, registered, session, held, heads, image, found, reset, submit, throws⟩
    have answered := SwapchainState.release_succeeds held heads found reset submit
    have returned : xrReleaseSwapchainImageImpl around swapchain layer =
        some (.runtimeFailure, layer.store swapchain parentHandle s.released) := by
      simp only [xrReleaseSwapchainImageImpl, registered, session, answered, Option.getD_some,
        throws, ne_eq, not_true_eq_false, ↓reduceIte, Bool.true_eq_false]
    have kept := retryable _ _ returned (by decide)
    exact Layer.store_ne_self registered (SwapchainState.released_ne_self held) kept
  · intro fine result after returned failed
    unfold xrReleaseSwapchainImageImpl at returned
    cases registered : layer.swapchainStates swapchain with
    | none =>
      simp only [registered] at returned
      split at returned <;> cases returned <;> rfl
    | some entry =>
      obtain ⟨parentHandle, s⟩ := entry
      simp only [registered] at returned
      by_cases session : layer.sessionStates parentHandle = false
      · rw [if_pos session] at returned
        cases returned
        rfl
      · rw [if_neg session] at returned
        cases answered : s.release around.vk with
        | none => simp [answered] at returned
        | some outcome =>
          simp only [answered] at returned
          by_cases success : outcome.result = .success
          · cases SwapchainState.release_cases answered with
            | refused | resetFails | submitFails => cases success
            | succeeds image held heads found reset submit =>
              by_cases throws : around.exchange swapchain s.releaseHead = false
              · exact absurd ⟨parentHandle, s, registered, by simpa using session,
                  held, heads, image, found, reset, submit, throws⟩ fine
              · simp only [ne_eq, not_true_eq_false, ↓reduceIte, Option.getD_some,
                  throws] at returned
                cases returned
                cases failed
          · rw [if_pos success] at returned
            cases returned
            rw [release_kept answered success]
            exact Layer.store_eq_self registered

end Attempt

/-- A failed call leaves the swapchain as it was, so that it can be repeated, exactly when it does
not fail after its update: a first acquire whose submission fails, or a release whose exchange
throws. -/
theorem failed_call_retryable_iff (around : Surroundings) (attempt : Attempt) :
    attempt.Retryable around ↔ ¬attempt.FailsAfterUpdate around := by
  cases attempt with
  | method s input =>
    cases input with
    | acquire => exact Attempt.acquire_retryable_iff
    | wait timeout => exact ⟨fun _ failed => failed, fun _ => Attempt.wait_retryable timeout⟩
    | release =>
      exact ⟨fun _ failed => failed, fun _ => Attempt.retryable_of_kept fun _ =>
        Attempt.release_kept⟩
  | xrReleaseSwapchainImage layer swapchain => exact Attempt.xrRelease_retryable_iff

/-- Neither call can be retried: after one failed submission the next acquire of the fresh image
waits for a semaphore that nothing signals, and after an exchange that throws the image is no longer
acquired although the release returned an error. -/
theorem failed_call_not_retryable :
    let image : SwapchainImage := ⟨1, 2, 3, 4, 5, false⟩
    let fresh := SwapchainState.create [image] false
    let waited : SwapchainState := ⟨[{ image with hasBeenAcquired := true }], false, 1, 0, 0, 0⟩
    let layer : Layer := ⟨fun _ => some (7, waited), fun _ => true⟩
    ¬(Attempt.method fresh .acquire).Retryable ⟨fun _ => ⟨-4⟩, none, fun _ _ => true⟩ ∧
      ((fresh.acquire fun _ => ⟨-4⟩).bind fun outcome =>
        (outcome.state.acquire fun _ => .success).map (·.issued)) =
          some [.queueSubmit 4 (some 2) none (some 3)] ∧
      (fresh.acquire fun _ => .success).map (·.issued) =
        some [.queueSubmit 4 none none (some 3)] ∧
      ¬(Attempt.xrReleaseSwapchainImage layer 8).Retryable
        ⟨fun _ => .success, none, fun _ _ => false⟩ := by
  intro image fresh waited layer
  refine ⟨fun retryable => ?_, by decide, by decide, fun retryable => ?_⟩
  · have kept := (retryable _ rfl (by decide)).1
    exact absurd kept (by decide)
  · have returned : xrReleaseSwapchainImageImpl ⟨fun _ => .success, none, fun _ _ => false⟩ 8
        layer = some (.runtimeFailure, layer.store 8 7 waited.released) := by
      with_unfolding_all rfl
    have kept := retryable _ _ returned (by decide)
    have count := congrArg (fun layer : Layer =>
      (layer.swapchainStates 8).map (·.2.numAcquired)) kept
    exact absurd count (by decide)

end XrTransport.Vulkan.Client
