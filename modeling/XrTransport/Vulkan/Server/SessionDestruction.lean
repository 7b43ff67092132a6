import XrTransport.Vulkan.Server.SwapchainObjects

/-!
# Destroying a session of the server

`handle_destroy_session` should destroy every swapchain of the session once and forget the session
and its swapchains. It never forgets the session, and where the session has a swapchain, its loop
increments the iterator of an element that the body has erased.
-/
namespace XrTransport.Vulkan.Server.Registry

open Vulkan.Client (Handle)

/-- The objects that `destroy_swapchain` destroys for a swapchain. -/
def State.objectsOf (s : State) (swapchain : Handle) : List (Kind × Nat) :=
  (s.swapchainStates.lookup swapchain).elim [] fun state =>
    state.sharedImages.flatMap OwnedImage.destroyed

/-- A session with the swapchains `listed` has been destroyed. -/
structure SessionDestroyed (s : State) (session : Handle) (listed : List Handle) (after : State) :
    Prop where
  /-- The loop has not gone on from an element that its body has erased. -/
  defined : after.undefined = false
  /-- The objects of each swapchain have been destroyed, once. -/
  objects : after.platform.ledger.destroyed.Perm
    (listed.flatMap s.objectsOf ++ s.platform.ledger.destroyed)
  /-- The swapchains are not alive in the runtime. -/
  runtime : ∀ swapchain ∈ listed, ∀ pair ∈ after.alive, pair.1 ≠ swapchain
  /-- The swapchains are not registered. -/
  swapchains : ∀ swapchain ∈ listed, after.swapchainStates.lookup swapchain = none
  /-- The session is not registered. -/
  session : after.sessionStates.lookup session = none

section Registered

variable {s : State} {session : Handle}

/-- A session is registered. -/
def State.Knows (s : State) (session : Handle) : Prop := s.sessionStates.lookup session ≠ none

/-- `destroy_swapchain` forgets no session. -/
theorem destroySwapchain_knows (knows : s.Knows session) (ended : Bool) (swapchain : Handle) :
    (destroySwapchain ended swapchain s).2.Knows session := by
  rw [destroySwapchain_eq]
  cases registered : s.swapchainStates.lookup swapchain with
  | none => exact knows
  | some state =>
    cases parent : s.sessionStates.lookup state.parentHandle with
    | none => simpa only [parent] using knows
    | some parentState =>
      simp only [parent]
      unfold State.Knows State.unregister
      by_cases same : session = state.parentHandle
      · subst same
        rw [AList.lookup_insert]
        exact Option.some_ne_none _
      · rw [AList.lookup_insert_ne same]
        exact knows

/-- Neither does the loop of `handle_destroy_session`. -/
theorem destroySwapchains_knows {other : Handle} (knows : s.Knows other) (ended : Handle → Bool)
    (swapchains : List Handle) : (destroySwapchains ended session swapchains s).2.Knows other := by
  induction swapchains generalizing s with
  | nil => exact knows
  | cons swapchain rest ih =>
    have kept := destroySwapchain_knows knows (ended swapchain) swapchain
    rcases destroyed : destroySwapchain (ended swapchain) swapchain s with ⟨_ | _, after⟩
    · rw [destroyed] at kept
      simpa [destroySwapchains, Program.bind_apply, Program.andThen, destroyed] using kept
    · rw [destroyed] at kept
      by_cases valid : swapchain ∈ after.swapchainsOf session
      · simpa [destroySwapchains, Program.bind_apply, Program.andThen, Program.get, destroyed,
          valid] using ih kept
      · have marked : State.Knows { after with undefined := true } other := kept
        simpa [destroySwapchains, Program.bind_apply, Program.andThen, Program.get, Program.modify,
          destroyed, valid] using marked

/-- `handle_destroy_session` does not forget the session. -/
theorem handleDestroySession_knows (knows : s.Knows session) (ended : Handle → Bool)
    (sessionEnded : Bool) :
    (handleDestroySession ended sessionEnded session s).2.Knows session := by
  cases found : s.sessionStates.lookup session with
  | none => exact absurd found knows
  | some state =>
    have kept := @destroySwapchains_knows s session session knows ended state.swapchains
    rcases destroyed : destroySwapchains ended session state.swapchains s with ⟨_ | _, after⟩
    · rw [destroyed] at kept
      simpa [handleDestroySession, Program.bind_apply, Program.andThen, Program.get,
        Program.ofOption, Program.ret, found, destroyed] using kept
    · rw [destroyed] at kept
      have runtime : (after.runtimeDestroys sessionEnded session).Knows session := by
        unfold State.runtimeDestroys
        split <;> exact kept
      simpa [handleDestroySession, Program.bind_apply, Program.andThen, Program.get,
        Program.ofOption, Program.ret, Program.modify, found, destroyed] using runtime

/-- Where the registries agree, the loop goes on from an erased element as soon as the session has a
swapchain. -/
theorem handleDestroySession_defined_iff (consistent : s.Consistent) (defined : s.undefined = false)
    {state : SessionState} (found : s.sessionStates.lookup session = some state)
    (ended : Handle → Bool) (sessionEnded : Bool) :
    (handleDestroySession ended sessionEnded session s).2.undefined = false ↔
      state.swapchains = [] := by
  rw [handleDestroySession_eq consistent]
  cases swapchains : state.swapchains with
  | nil => simp [found, swapchains, State.runtimeDestroys, defined]
  | cons swapchain rest => simp [found, swapchains]

end Registered

/-- No session is ever destroyed as it should be: a registered session stays registered, whatever
swapchains it has. -/
theorem destroy_session_incomplete (s : State) (session : Handle) (state : SessionState)
    (found : s.sessionStates.lookup session = some state) (ended : Handle → Bool)
    (sessionEnded : Bool) :
    ¬SessionDestroyed s session state.swapchains
      (handleDestroySession ended sessionEnded session s).2 := by
  intro destroyed
  have knows : s.Knows session := by
    rw [State.Knows, found]
    exact Option.some_ne_none state
  exact handleDestroySession_knows knows ended sessionEnded destroyed.session

/-- A session without swapchains. -/
def emptySession : State where
  sessionStates := Registry.emplace ∅ 7 { handle := 7 }

/-- A session with one swapchain of one image. -/
def oneSwapchain : State where
  sessionStates := Registry.emplace ∅ 7 { handle := 7, swapchains := [9] }
  swapchainStates := Registry.emplace ∅ 9 {
    handle := 9
    parentHandle := 7
    sharedImages := [{
      image := 1, sharedMemory := 2, renderingDone := 3, copyingDone := 4, commandBuffer := 5,
      commandBufferFence := 6 }]
    runtimeImages := [10]
    imageType := .color
    width := 1
    height := 1 }
  alive := [(9, 7)]

/-- The session with one swapchain is such a session. -/
theorem destroy_session_incomplete_oneSwapchain :
    ¬SessionDestroyed oneSwapchain 7 [9]
      (handleDestroySession (fun _ => true) true 7 oneSwapchain).2 :=
  destroy_session_incomplete oneSwapchain 7 { handle := 7, swapchains := [9] } rfl (fun _ => true)
    true

/-- Destroying the session with one swapchain advances an iterator to an erased element, and leaves
the session registered; destroying the other leaves it registered. -/
theorem destroy_session_misbehaves :
    (handleDestroySession (fun _ => true) true 7 oneSwapchain).2.undefined = true ∧
      ((handleDestroySession (fun _ => true) true 7 oneSwapchain).2.sessionStates.lookup 7).isSome ∧
      ((handleDestroySession (fun _ => true) true 7 emptySession).2.sessionStates.lookup
        7).isSome ∧
      ¬SessionDestroyed oneSwapchain 7 [9]
        (handleDestroySession (fun _ => true) true 7 oneSwapchain).2 := by
  refine ⟨by decide, by decide, by decide, fun destroyed => ?_⟩
  exact absurd destroyed.defined (by decide)

end XrTransport.Vulkan.Server.Registry
