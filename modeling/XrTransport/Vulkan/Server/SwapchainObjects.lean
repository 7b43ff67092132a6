import XrTransport.Foundation.Transition
import XrTransport.Vulkan.Server.Registry

/-!
# The server's Vulkan objects

Which objects of the server are live between the requests of a run. A creation that fails after its
first Vulkan call leaves what it has created, and `destroy_swapchain` forgets the fence of every
image.
-/
namespace XrTransport.Vulkan.Server.Registry

open Vulkan.Client (Handle)
open Program Platform

/-- The registries agree with each other: the session of a registered swapchain is registered and
lists it, and what a registered session lists is registered with that session as parent. -/
abbrev State.Consistent (s : State) : Prop :=
  Related Swapchain.parentHandle SessionState.swapchains s.sessionStates s.swapchainStates

/-- The registries agree, and what is registered is alive in the runtime. -/
structure State.Sound (s : State) : Prop where
  /-- The registries. -/
  consistent : s.Consistent
  /-- The swapchains. -/
  living : ∀ swapchain state, s.swapchainStates.lookup swapchain = some state →
    (swapchain, state.parentHandle) ∈ s.alive

/-- The objects of the registered swapchains. -/
def State.owned (s : State) : List (Kind × Nat) := s.swapchainStates.owned Swapchain.objects

/-- The live objects are exactly those of the registered swapchains, the others have been destroyed
once, and nothing undefined has happened. -/
structure State.Settled (s : State) : Prop where
  /-- The objects. -/
  objects : s.platform.ledger.Settled s.owned
  /-- The behaviour. -/
  defined : s.undefined = false

/-- The runtime does not use the handle of a swapchain that is alive for a new one. -/
def Lawful (s : State) : Request → Prop
  | .createSwapchain _ answers _ _ =>
    answers.created.1.succeeded = true → ∀ pair ∈ s.alive, pair.1 ≠ answers.created.2
  | _ => True

instance (s : State) : ∀ request, Decidable (Lawful s request)
  | .createSwapchain .. => inferInstanceAs (Decidable (_ → _))
  | .destroySwapchain .. | .createSession _ | .destroySession .. =>
    inferInstanceAs (Decidable True)

/-- Runs of requests. -/
def system (start : State) : System State Request where
  init := start
  step s request := if Lawful s request then some (request.perform s) else none

/-- A step is a lawful request. -/
theorem step_eq_some {start s s' : State} {request : Request}
    (taken : (system start).step s request = some s') :
    Lawful s request ∧ s' = request.perform s := by
  by_cases lawful : Lawful s request
  · have stepped : (system start).step s request = some (request.perform s) := if_pos lawful
    rw [stepped] at taken
    exact ⟨lawful, (Option.some.inj taken).symm⟩
  · have stuck : (system start).step s request = none := if_neg lawful
    rw [stuck] at taken
    cases taken

section Creation

variable {answers : CreateAnswers} {succeeds : Prop} {first made : Nat}
  {leaked owned : List (Kind × Nat)} {commandPool createFlags : Nat}

/-- The memory type for an image is found. -/
def CreateAnswers.FindsType (answers : CreateAnswers) (createFlags index : Nat) : Prop :=
  findMemoryType answers.memoryTypes (answers.memoryTypeBits index) (requiredFlags createFlags) ≠
    none

instance (createFlags index : Nat) : Decidable (answers.FindsType createFlags index) :=
  inferInstanceAs (Decidable (_ ≠ _))

/-- An image takes seven calls and a memory type. -/
theorem createImage_meets {index : Nat}
    (needed : ∀ call < 7, succeeds → answers.vk (first + (made + call)) = .success)
    (typed : succeeds → answers.FindsType createFlags index) (begun : made = 0 ↔ leaked = []) :
    Meets (Progress answers.vk first made (leaked ++ owned))
      (createImage answers commandPool createFlags index)
      (fun image p => answers.FindsType createFlags index ∧
        Progress answers.vk first (made + 7) (image.objects ++ (leaked ++ owned)) p)
      (Failed answers.vk succeeds first owned) := by
  refine (create_meets (needed 0 (by omega)) begun).bind fun image => ?_
  cases found : findMemoryType answers.memoryTypes (answers.memoryTypeBits index)
    (requiredFlags createFlags) with
  | none =>
    have doomed : ¬succeeds := fun succeed => typed succeed found
    exact throw_meets doomed (by simp) (Nat.succ_ne_zero _)
  | some memoryType =>
    have finds : answers.FindsType createFlags index := by
      rw [CreateAnswers.FindsType, found]
      exact Option.some_ne_none memoryType
    refine (create_meets (needed 1 (by omega)) (by simp)).bind fun memory => ?_
    refine (require_meets (needed 2 (by omega)) (by simp)).bind fun _ => ?_
    refine (create_meets (needed 3 (by omega)) (by simp)).bind fun renderingDone => ?_
    refine (create_meets (needed 4 (by omega)) (by simp)).bind fun copyingDone => ?_
    refine (allocateCommandBuffer_meets (needed 5 (by omega)) (by simp)).bind fun buffer => ?_
    refine (create_meets (needed 6 (by omega)) (by simp)).bind fun fence => ?_
    exact Meets.pure fun _ progress => ⟨finds, progress⟩

/-- The loop creates the objects of all images, or it throws. -/
theorem createImages_meets
    (needed : succeeds → ∀ call < 7 * answers.enumerated.2.length,
      answers.vk (first + call) = .success)
    (typed : succeeds → ∀ index < answers.enumerated.2.length,
      answers.FindsType createFlags index) :
    Meets (Progress answers.vk first 0 owned) (createImages answers commandPool createFlags)
      (fun images p => images.length = answers.enumerated.2.length ∧
        (∀ index < answers.enumerated.2.length, answers.FindsType createFlags index) ∧
        Progress answers.vk first (7 * answers.enumerated.2.length)
          (images.flatMap OwnedImage.objects ++ owned) p)
      (Failed answers.vk succeeds first owned) := by
  set numImages := answers.enumerated.2.length
  have loop := @collect_meets answers.vk succeeds first 0 [] owned _ _
    (createImage answers commandPool createFlags)
    (fun index _ => answers.FindsType createFlags index) OwnedImage.objects 7
    (List.range numImages) (fun _ => List.cons_ne_nil _ _) (by omega) (by simp) ?_
  · refine loop.consequence (fun _ progress => progress) (fun images p ended => ?_)
      fun _ failed => failed
    obtain ⟨all, progress⟩ := ended
    rw [List.length_range, Nat.zero_add, List.nil_append] at progress
    refine ⟨?_, fun index less => ?_, progress⟩
    · rw [← all.length_eq, List.length_range]
    · have inside : index < (List.range numImages).length := by
        rw [List.length_range]
        exact less
      have finds := all.get inside (by rw [← all.length_eq]; exact inside)
      rw [List.get_eq_getElem, List.getElem_range] at finds
      exact finds
  · intro earlier index later whole held begun
    have split := congrArg List.length whole
    rw [List.length_range, List.length_append, List.length_cons] at split
    have bounded : index < numImages := by
      apply List.mem_range.mp
      rw [whole]
      simp
    refine createImage_meets (fun call less succeed => ?_) (fun succeed => ?_) begun
    · rw [Nat.zero_add]
      exact needed succeed _ (by omega)
    · exact typed succeed index bounded

end Creation

/-- Exporting and writing the handles changes no object. -/
theorem writeImages_keeps (vk : Nat → VkResult) (images : List OwnedImage) :
    Keeps Platform.ledger (writeImages vk images) := by
  have require : Keeps Platform.ledger (Platform.require vk) := by
    intro p
    unfold Platform.require
    split <;> rfl
  have write (handle : Nat) : Keeps Platform.ledger (Platform.writeHandle handle) := fun _ => rfl
  refine Keeps.forEach fun image => ?_
  have exports : Keeps Platform.ledger (exportImageHandles vk image) :=
    require.bind fun _ => require.bind fun _ => require.bind fun _ => Keeps.pure
  exact exports.bind fun handles => (write _).bind fun _ => (write _).bind fun _ => write _

section Sound

variable {s : State}

/-- The runtime's creation of a swapchain adds to what is alive. -/
theorem State.Sound.runtimeCreates (sound : s.Sound) (answers : CreateAnswers) (session : Handle) :
    (s.runtimeCreates answers session).Sound := by
  unfold State.runtimeCreates
  split
  · refine ⟨sound.consistent, fun swapchain state found => ?_⟩
    exact List.mem_cons_of_mem _ (sound.living swapchain state found)
  · exact sound

/-- A handle that is not alive is not registered. -/
theorem State.Sound.unregistered (sound : s.Sound) {handle : Handle}
    (fresh : ∀ pair ∈ s.alive, pair.1 ≠ handle) : s.swapchainStates.lookup handle = none := by
  cases old : s.swapchainStates.lookup handle with
  | none => rfl
  | some state => exact absurd rfl (fresh (handle, state.parentHandle) (sound.living _ state old))

/-- A new swapchain that is alive is listed by its session. -/
theorem State.Sound.register (sound : s.Sound) {session : SessionState} {swapchain : Swapchain}
    (found : s.sessionStates.lookup swapchain.parentHandle = some session)
    (unregistered : s.swapchainStates.lookup swapchain.handle = none)
    (born : (swapchain.handle, swapchain.parentHandle) ∈ s.alive) :
    (s.register session swapchain).Sound := by
  rw [State.register, Registry.emplace_of_none unregistered]
  refine ⟨sound.consistent.adopt found unregistered fun other => ?_, fun other state looked => ?_⟩
  · rw [SessionState.enlist, List.mem_insert_iff]
  · by_cases new : other = swapchain.handle
    · subst new
      rw [AList.lookup_insert] at looked
      obtain rfl := Option.some.inj looked
      exact born
    · rw [AList.lookup_insert_ne new] at looked
      exact sound.living other state looked

/-- `handle_create_swapchain` keeps the registries in agreement. -/
theorem handleCreateSwapchain_sound (sound : s.Sound) (decodes : Bool) (answers : CreateAnswers)
    (session : Handle) (createInfo : SwapchainCreateInfo)
    (lawful : Lawful s (.createSwapchain decodes answers session createInfo)) :
    (handleCreateSwapchain decodes answers session createInfo s).2.Sound := by
  rw [handleCreateSwapchain_eq]
  cases decodes with
  | false => exact sound
  | true =>
    have created := sound.runtimeCreates answers session
    by_cases refused : answers.created.1 ≠ .success
    · simp only [Bool.not_true, Bool.false_eq_true, if_false, if_pos refused]
      exact created
    have success : answers.created.1 = .success := not_not.mp refused
    have succeeded : answers.created.1.succeeded = true := by
      rw [success]
      rfl
    have unregistered := sound.unregistered (lawful succeeded)
    have runtime : s.runtimeCreates answers session =
        { s with alive := (answers.created.2, session) :: s.alive } := if_pos succeeded
    simp only [Bool.not_true, Bool.false_eq_true, if_false, if_neg refused]
    split
    · exact created
    next sessionState found =>
    split
    · exact created
    split
    · exact ⟨created.consistent, created.living⟩
    · exact ⟨created.consistent, created.living⟩
    next images platform imageType made type =>
      have registered := @State.Sound.register
        { s.runtimeCreates answers session with platform } ⟨created.consistent, created.living⟩
        sessionState (newSwapchain answers createInfo session images imageType) found
        (by rw [runtime]; exact unregistered) (by rw [runtime]; exact List.mem_cons_self)
      exact ⟨registered.consistent, registered.living⟩

/-- So does `destroy_swapchain`. -/
theorem destroySwapchain_sound (sound : s.Sound) (ended : Bool) (swapchain : Handle) :
    (destroySwapchain ended swapchain s).2.Sound := by
  rw [destroySwapchain_eq]
  cases registered : s.swapchainStates.lookup swapchain with
  | none => exact sound
  | some state =>
    obtain ⟨session, found, -⟩ := sound.consistent.named swapchain state registered
    simp only [found]
    refine ⟨sound.consistent.disown registered found fun other => ?_,
      fun other kept looked => ?_⟩
    · rw [SessionState.delist, List.mem_filter, decide_eq_true_eq]
    · by_cases erased : other = swapchain
      · subst erased
        have gone : (s.swapchainStates.erase other).lookup other = none := AList.lookup_erase _ _
        rw [State.unregister, gone] at looked
        cases looked
      · have before : s.swapchainStates.lookup other = some kept :=
          (AList.lookup_erase_ne erased).symm.trans looked
        have living := sound.living other kept before
        unfold State.unregister
        split
        · exact List.mem_filter.mpr ⟨living, decide_eq_true erased⟩
        · exact living

/-- In agreeing registries the loop of `handle_destroy_session` is over a set that its body erases
from: its first round invalidates the iterator. -/
theorem destroySwapchains_eq (consistent : s.Consistent) {session : Handle} {state : SessionState}
    (found : s.sessionStates.lookup session = some state) (ended : Handle → Bool)
    {swapchain : Handle} {rest : List Handle} (swapchains : state.swapchains = swapchain :: rest) :
    destroySwapchains ended session (swapchain :: rest) s =
      (some ⟨⟩, { (destroySwapchain (ended swapchain) swapchain s).2 with undefined := true }) := by
  have listed : swapchain ∈ state.swapchains := by
    rw [swapchains]
    exact List.mem_cons_self
  obtain ⟨child, registered, parent⟩ := consistent.listed session state found swapchain listed
  have looked : s.sessionStates.lookup child.parentHandle = some state := parent ▸ found
  have destroyed : destroySwapchain (ended swapchain) swapchain s =
      (some ⟨⟩, s.unregister (ended swapchain) state swapchain child) := by
    simp only [destroySwapchain_eq, registered, looked]
  have erased : swapchain ∉
      (s.unregister (ended swapchain) state swapchain child).swapchainsOf session := by
    simp [State.swapchainsOf, State.unregister, parent, SessionState.delist]
  simp [destroySwapchains, Program.bind_apply, Program.andThen, Program.get, destroyed, erased,
    Program.modify]

/-- What `handle_destroy_session` leaves, where the registries agree. -/
theorem handleDestroySession_eq (consistent : s.Consistent) (ended : Handle → Bool)
    (sessionEnded : Bool) (session : Handle) :
    (handleDestroySession ended sessionEnded session s).2 =
      match s.sessionStates.lookup session with
      | none => s
      | some state =>
        match state.swapchains with
        | [] => s.runtimeDestroys sessionEnded session
        | swapchain :: _ =>
          { (destroySwapchain (ended swapchain) swapchain s).2 with undefined := true } := by
  cases found : s.sessionStates.lookup session with
  | none =>
    simp [handleDestroySession, Program.bind_apply, Program.andThen, Program.get,
      Program.ofOption, Program.throw, found]
  | some state =>
    cases swapchains : state.swapchains with
    | nil =>
      simp [handleDestroySession, destroySwapchains, Program.bind_apply, Program.andThen,
        Program.get, Program.ofOption, Program.ret, Program.modify, found, swapchains]
    | cons swapchain rest =>
      have loop := destroySwapchains_eq consistent found ended swapchains
      simp [handleDestroySession, Program.bind_apply, Program.andThen, Program.get,
        Program.ofOption, Program.ret, Program.modify, found, swapchains, loop,
        State.runtimeDestroys]

/-- Every request keeps the registries in agreement. -/
theorem perform_sound (sound : s.Sound) (request : Request) (lawful : Lawful s request) :
    (request.perform s).Sound := by
  cases request with
  | createSwapchain decodes answers session createInfo =>
    exact handleCreateSwapchain_sound sound decodes answers session createInfo lawful
  | destroySwapchain decodes ended swapchain =>
    cases decodes with
    | false => exact sound
    | true => exact destroySwapchain_sound sound ended swapchain
  | createSession created =>
    cases succeeded : created.1.succeeded with
    | false => simpa [Request.perform, handleCreateSession, succeeded, Program.throw] using sound
    | true =>
      have stored : ((Request.createSession created).perform s) = { s with
          sessionStates := s.sessionStates.emplace created.2 { handle := created.2 } } := by
        simp [Request.perform, handleCreateSession, succeeded, Program.bind_apply,
          Program.andThen, Program.modify]
      rw [stored]
      exact ⟨sound.consistent.emplace rfl, sound.living⟩
  | destroySession ended session =>
    rw [Request.perform, handleDestroySession_eq sound.consistent]
    cases found : s.sessionStates.lookup session with
    | none => exact sound
    | some state =>
      cases swapchains : state.swapchains with
      | nil =>
        simp only [swapchains]
        unfold State.runtimeDestroys
        split
        · exact sound
        · refine ⟨sound.consistent, fun swapchain child registered => ?_⟩
          have living := sound.living swapchain child registered
          dsimp only
          split
          · refine List.mem_filter.mpr ⟨living, decide_eq_true fun same => ?_⟩
            obtain ⟨parent, looked, lists⟩ := sound.consistent.named swapchain child registered
            have parent_eq : child.parentHandle = session := same
            rw [parent_eq, found] at looked
            obtain rfl := Option.some.inj looked
            rw [swapchains] at lists
            cases lists
          · exact living
      | cons swapchain rest =>
        have destroyed := destroySwapchain_sound sound ended swapchain
        simp only [swapchains]
        exact ⟨destroyed.consistent, destroyed.living⟩

end Sound

/-- All Vulkan calls of a creation that begins with call number `issued` succeed, a memory type is
found for every image and the usage flags name an image type. -/
def CreateAnswers.Completes (answers : CreateAnswers) (createInfo : SwapchainCreateInfo)
    (issued : Nat) : Prop :=
  (∀ call < 7 * answers.enumerated.2.length, answers.vk (issued + call) = .success) ∧
    (∀ index < answers.enumerated.2.length, answers.FindsType createInfo.createFlags index) ∧
    imageTypeOf createInfo.usageFlags ≠ none

/-- The condition on the requests: a creation of a swapchain that reaches its images completes and
registers them or fails in its first Vulkan call, a swapchain that is destroyed has no images, and a
session that is destroyed lists no swapchain. -/
def Spares (s : State) : Request → Prop
  | .createSwapchain decodes answers session createInfo =>
    decodes = true → answers.created.1 = .success → s.sessionStates.lookup session ≠ none →
      answers.counted.succeeded = true → answers.enumerated.1.succeeded = true →
        answers.enumerated.2 ≠ [] →
          answers.Completes createInfo s.platform.issued ∨
            answers.vk s.platform.issued ≠ .success
  | .destroySwapchain decodes _ swapchain =>
    decodes = true → ∀ state ∈ s.swapchainStates.lookup swapchain, state.sharedImages = []
  | .destroySession _ session =>
    ∀ state ∈ s.sessionStates.lookup session, state.swapchains = []
  | .createSession _ => True

instance (answers : CreateAnswers) (createInfo : SwapchainCreateInfo) (issued : Nat) :
    Decidable (answers.Completes createInfo issued) :=
  inferInstanceAs (Decidable (_ ∧ _ ∧ _))

/-- Whether a request meets it can be computed. -/
instance decidableSpares (s : State) : ∀ request, Decidable (Spares s request)
  | .createSwapchain .. => inferInstanceAs (Decidable (_ → _ → _ → _ → _ → _ → _ ∨ _))
  | .destroySwapchain .. => inferInstanceAs (Decidable (_ → ∀ state ∈ _, _))
  | .destroySession .. => inferInstanceAs (Decidable (∀ state ∈ _, _))
  | .createSession _ => inferInstanceAs (Decidable True)

section Settled

variable {s : State}

/-- When the registered swapchains stay the same only Vulkan matters. -/
theorem State.Settled.iff_balanced {s' : State} (settled : s.Settled)
    (swapchains : s'.swapchainStates = s.swapchainStates) (defined : s'.undefined = s.undefined) :
    s'.Settled ↔ s'.platform.ledger.Balanced s.owned := by
  rw [← Ledger.settled_iff, State.owned, ← swapchains]
  exact ⟨fun after => after.objects, fun objects => ⟨objects, defined.trans settled.defined⟩⟩

/-- Without a Vulkan call nothing is lost. -/
theorem State.Settled.same {s' : State} (settled : s.Settled)
    (platform : s'.platform = s.platform) (swapchains : s'.swapchainStates = s.swapchainStates)
    (defined : s'.undefined = s.undefined) : s'.Settled := by
  rw [settled.iff_balanced swapchains defined, platform]
  exact Ledger.settled_iff.mp settled.objects

/-- The runtime's creation of a swapchain is no matter of Vulkan. -/
theorem State.Settled.runtimeCreates (settled : s.Settled) (answers : CreateAnswers)
    (session : Handle) : (s.runtimeCreates answers session).Settled := by
  unfold State.runtimeCreates
  split
  · exact settled.same rfl rfl rfl
  · exact settled

/-- It changes neither Vulkan nor the registries. -/
theorem runtimeCreates_same (answers : CreateAnswers) (session : Handle) :
    (s.runtimeCreates answers session).platform = s.platform ∧
      (s.runtimeCreates answers session).sessionStates = s.sessionStates ∧
      (s.runtimeCreates answers session).swapchainStates = s.swapchainStates ∧
      (s.runtimeCreates answers session).savedVkCommandPool = s.savedVkCommandPool ∧
      (s.runtimeCreates answers session).undefined = s.undefined := by
  unfold State.runtimeCreates
  split <;> exact ⟨rfl, rfl, rfl, rfl, rfl⟩

/-- A creation keeps the objects settled exactly if it completes or creates nothing. -/
theorem createSwapchain_settled_iff (sound : s.Sound) (settled : s.Settled) (decodes : Bool)
    (answers : CreateAnswers) (session : Handle) (createInfo : SwapchainCreateInfo)
    (lawful : Lawful s (.createSwapchain decodes answers session createInfo)) :
    (handleCreateSwapchain decodes answers session createInfo s).2.Settled ↔
      Spares s (.createSwapchain decodes answers session createInfo) := by
  rw [handleCreateSwapchain_eq]
  cases decodes with
  | false => simp [Spares, settled]
  | true =>
    have created := settled.runtimeCreates answers session
    obtain ⟨platform_eq, sessions_eq, swapchains_eq, pool_eq, undefined_eq⟩ :=
      @runtimeCreates_same s answers session
    by_cases refused : answers.created.1 = .success
    case neg => simp [Spares, refused, created]
    have unregistered := sound.unregistered (lawful (by rw [refused]; rfl))
    cases found : s.sessionStates.lookup session with
    | none => simp [Spares, refused, sessions_eq, found, created]
    | some sessionState =>
      cases counted : answers.counted.succeeded with
      | false => simp [Spares, refused, sessions_eq, found, counted, created]
      | true =>
        cases enumerated : answers.enumerated.1.succeeded with
        | false => simp [Spares, refused, sessions_eq, found, counted, enumerated, created]
        | true =>
          have balanced := Ledger.settled_iff.mp settled.objects
          have creates := @createImages_meets answers
            (answers.Completes createInfo s.platform.issued) s.platform.issued s.owned
            s.savedVkCommandPool createInfo.createFlags (fun so => so.1) (fun so => so.2.1)
            s.platform ⟨balanced, rfl, fun _ none => absurd none (Nat.not_lt_zero _)⟩
          simp only [Spares, refused, found, counted, enumerated, ne_eq, not_true_eq_false,
            if_false, Bool.not_true, Bool.false_eq_true, sessions_eq, platform_eq, pool_eq,
            Bool.and_self, reduceCtorEq, not_false_eq_true, forall_const]
          rcases made : createImages answers s.savedVkCommandPool createInfo.createFlags
            s.platform with ⟨_ | images, platform⟩
          · rw [made] at creates
            obtain ⟨leaked, left, nothing⟩ := creates.leaks
            have images : answers.enumerated.2 ≠ [] := by
              intro none
              rw [createImages, none] at made
              cases made
            simp only [images, not_false_eq_true, forall_const, creates.unsuccessful, false_or]
            rw [← ne_eq, ← nothing, settled.iff_balanced]
            case swapchains => exact swapchains_eq
            case defined => exact undefined_eq
            constructor
            · exact left.eq_nil
            · rintro rfl
              exact left
          · rw [made] at creates
            obtain ⟨number, finds, progress⟩ := creates
            cases type : imageTypeOf createInfo.usageFlags with
            | none =>
              -- the exception comes after the last call
              have failed : ¬answers.Completes createInfo s.platform.issued := fun so => so.2.2 type
              simp only [failed, false_or]
              rw [settled.iff_balanced]
              case swapchains => exact swapchains_eq
              case defined => exact undefined_eq
              constructor
              · intro after some
                have none := progress.balanced.eq_nil after
                cases images with
                | nil => exact absurd (List.length_eq_zero_iff.mp number.symm) some
                | cons image rest => cases none
              · intro fails
                have empty : answers.enumerated.2 = [] := by
                  by_contra some
                  have positive := List.length_pos_iff.mpr some
                  exact fails some (progress.succeeded 0 (by omega))
                rw [empty, List.length_nil] at number
                rw [List.length_eq_zero_iff.mp number] at progress
                exact progress.balanced
            | some imageType =>
              have completes : answers.Completes createInfo s.platform.issued :=
                ⟨progress.succeeded, finds, by rw [type]; simp⟩
              refine iff_of_true ⟨Ledger.settled_iff.mpr ?_, undefined_eq.trans settled.defined⟩
                fun _ => .inl completes
              have kept := writeImages_keeps answers.vk
                ((s.swapchainStates.lookup answers.created.2).getD
                  (newSwapchain answers createInfo session images imageType)).sharedImages platform
              have stored := @Registry.owned_insert _ _ _ _ s.swapchainStates answers.created.2
                (newSwapchain answers createInfo session images imageType) Swapchain.objects
                unregistered
              simp only [State.owned, State.register, swapchains_eq, kept, newSwapchain_handle,
                Registry.emplace_of_none unregistered]
              rw [stored]
              exact progress.balanced

/-- Destroying a swapchain with images leaves their fences. -/
theorem destroySwapchain_settled_iff (sound : s.Sound) (settled : s.Settled) (ended : Bool)
    (swapchain : Handle) :
    (destroySwapchain ended swapchain s).2.Settled ↔
      ∀ state ∈ s.swapchainStates.lookup swapchain, state.sharedImages = [] := by
  rw [destroySwapchain_eq]
  cases registered : s.swapchainStates.lookup swapchain with
  | none => simp [settled]
  | some state =>
    obtain ⟨session, found, -⟩ := sound.consistent.named swapchain state registered
    have before := (Ledger.settled_iff.mp settled.objects).perm (Registry.owned_erase registered)
    simp only [found, Option.mem_def, Option.some.injEq, forall_eq']
    constructor
    · intro after
      have counted := before.length
      have balanced : (s.platform.ledger.destroy
          (state.sharedImages.flatMap OwnedImage.destroyed)).Balanced
            (Registry.owned Swapchain.objects (s.swapchainStates.erase swapchain)) :=
        Ledger.settled_iff.mp after.objects
      have left := balanced.length
      have created : (s.platform.ledger.destroy
        (state.sharedImages.flatMap OwnedImage.destroyed)).created =
          s.platform.ledger.created := rfl
      have destroyed : (s.platform.ledger.destroy
        (state.sharedImages.flatMap OwnedImage.destroyed)).destroyed =
          state.sharedImages.flatMap OwnedImage.destroyed ++ s.platform.ledger.destroyed := rfl
      have six : state.objects.length = 6 * state.sharedImages.length := by
        simp [Swapchain.objects, OwnedImage.objects, List.length_flatMap, Nat.mul_comm]
      have five : (state.sharedImages.flatMap OwnedImage.destroyed).length =
          5 * state.sharedImages.length := by
        simp [OwnedImage.destroyed, List.length_flatMap, Nat.mul_comm]
      rw [created, destroyed, List.length_append] at left
      rw [List.length_append] at counted
      exact List.length_eq_zero_iff.mp (by omega)
    · intro none
      have nothing : state.objects = [] := by rw [Swapchain.objects, none, List.flatMap_nil]
      rw [nothing, List.nil_append] at before
      refine ⟨Ledger.settled_iff.mpr ?_, settled.defined⟩
      rw [State.unregister, none]
      exact before

/-- A request keeps the objects settled exactly if it meets the condition. -/
theorem perform_settled_iff (sound : s.Sound) (settled : s.Settled) (request : Request)
    (lawful : Lawful s request) : (request.perform s).Settled ↔ Spares s request := by
  cases request with
  | createSwapchain decodes answers session createInfo =>
    exact createSwapchain_settled_iff sound settled decodes answers session createInfo lawful
  | destroySwapchain decodes ended swapchain =>
    cases decodes with
    | false => exact iff_of_true settled fun never => by cases never
    | true =>
      have destroyed := destroySwapchain_settled_iff sound settled ended swapchain
      simpa [Spares, Request.perform, handleDestroySwapchain] using destroyed
  | createSession created =>
    refine iff_of_true ?_ trivial
    cases succeeded : created.1.succeeded with
    | false =>
      simpa [Request.perform, handleCreateSession, succeeded, Program.throw] using settled
    | true =>
      have stored : ((Request.createSession created).perform s) = { s with
          sessionStates := s.sessionStates.emplace created.2 { handle := created.2 } } := by
        simp [Request.perform, handleCreateSession, succeeded, Program.bind_apply,
          Program.andThen, Program.modify]
      rw [stored]
      exact settled.same rfl rfl rfl
  | destroySession ended session =>
    rw [Request.perform, handleDestroySession_eq sound.consistent]
    simp only [Spares]
    cases found : s.sessionStates.lookup session with
    | none => simp [settled]
    | some state =>
      cases swapchains : state.swapchains with
      | nil =>
        simp only [swapchains, Option.mem_def, Option.some.injEq, forall_eq',
          State.runtimeDestroys, settled.defined, Bool.false_eq_true, if_false]
        exact iff_of_true (settled.same rfl rfl settled.defined.symm) trivial
      | cons swapchain rest =>
        refine iff_of_false (fun after => ?_) (by simp [swapchains])
        have defined := after.defined
        simp [swapchains] at defined

/-- In every run the objects are settled throughout exactly if the requests meet the condition
throughout. -/
theorem objects_settled_iff {start s' : State} (sound : start.Sound) (settled : start.Settled)
    {requests : List Request} (ran : (system start).run start requests = some s') :
    ((system start).Along (fun s _ => s.Settled) start requests ∧ s'.Settled) ↔
      (system start).Along Spares start requests := by
  refine (system start).along_holds_iff_of_invariant (fun s request after sound _ taken => ?_)
    (fun s request after sound settled taken => ?_) sound settled ran
  · obtain ⟨lawful, rfl⟩ := step_eq_some taken
    exact perform_sound sound request lawful
  · obtain ⟨lawful, rfl⟩ := step_eq_some taken
    exact perform_settled_iff sound settled request lawful

end Settled

end XrTransport.Vulkan.Server.Registry
