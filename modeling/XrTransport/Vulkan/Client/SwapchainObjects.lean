import XrTransport.Vulkan.Client.RegistryConsistency

/-!
# The client's Vulkan objects

Which objects are live between the calls of a run. Destroying a swapchain destroys all its objects;
a creation that fails after its first Vulkan call leaves what it has created.
-/
namespace XrTransport.Vulkan.Client.Registry

open Program Platform

/-- The objects of an imported image. -/
def ImportedImage.objects (imported : ImportedImage) : List (Kind × Nat) :=
  [(.semaphore, imported.copyingDone), (.semaphore, imported.renderingDone),
    (.memory, imported.memory), (.image, imported.image)]

/-- The imported part of an image. -/
def OwnedImage.imported (image : OwnedImage) : ImportedImage where
  image := image.image
  memory := image.memory
  renderingDone := image.renderingDone
  copyingDone := image.copyingDone
  handles := image.handles

/-- What `create_image` adds to an imported image. -/
def OwnedImage.added (image : OwnedImage) : List (Kind × Nat) :=
  [(.commandBuffer, image.releaseCommandBuffer), (.commandBuffer, image.acquireCommandBuffer),
    (.fence, image.copyingDoneFence)]

/-- Together they are the objects of the image. -/
theorem OwnedImage.objects_perm (image : OwnedImage) :
    (image.added ++ image.imported.objects).Perm image.objects := by
  have reversed := (List.reverse_perm (image.added ++ image.imported.objects)).symm
  have rotated := @List.perm_append_comm (Kind × Nat)
    [(.image, image.image), (.memory, image.memory), (.semaphore, image.renderingDone),
      (.semaphore, image.copyingDone), (.fence, image.copyingDoneFence)]
    [(.commandBuffer, image.acquireCommandBuffer), (.commandBuffer, image.releaseCommandBuffer)]
  exact reversed.trans rotated

/-- All images together. -/
theorem objects_perm (images : List OwnedImage) :
    (images.flatMap OwnedImage.added ++
      (images.map OwnedImage.imported).flatMap ImportedImage.objects).Perm
        (images.flatMap OwnedImage.objects) := by
  induction images with
  | nil => exact .refl _
  | cons image rest ih =>
    simp only [List.map_cons, List.flatMap_cons, List.append_assoc]
    refine List.Perm.trans ?_ (image.objects_perm.append ih)
    rw [List.append_assoc]
    exact (List.perm_append_comm_assoc _ _ _).append_left _

section Creation

variable {vk : Nat → VkResult} {succeeds : Prop} {first made : Nat}
  {leaked owned : List (Kind × Nat)}

/-- The calls that are needed from a later one on. -/
theorem needed_from {calls : Nat}
    (needed : ∀ call < calls, succeeds → vk (first + (made + call)) = .success) (offset : Nat) :
    ∀ call, offset + call < calls → succeeds → vk (first + (made + offset + call)) = .success := by
  intro call less
  rw [Nat.add_assoc made]
  exact needed (offset + call) less

/-- A semaphore is created and then imported. -/
theorem importSemaphore_meets
    (needed : ∀ call < 2, succeeds → vk (first + (made + call)) = .success)
    (begun : made = 0 ↔ leaked = []) :
    Meets (Progress vk first made (leaked ++ owned)) (importSemaphore vk)
      (fun semaphore => Progress vk first (made + 2) (((.semaphore, semaphore) :: leaked) ++ owned))
      (Failed vk succeeds first owned) := by
  refine (create_meets (needed 0 (by omega)) begun).bind fun semaphore => ?_
  refine (require_meets (needed 1 (by omega)) (by simp)).bind fun _ => ?_
  exact Meets.pure fun _ progress => progress

/-- An image takes seven calls to import. -/
theorem importImage_meets
    (needed : ∀ call < 7, succeeds → vk (first + (made + call)) = .success)
    (begun : made = 0 ↔ leaked = []) :
    Meets (Progress vk first made (leaked ++ owned)) (importImage vk)
      (fun imported => Progress vk first (made + 7) (imported.objects ++ (leaked ++ owned)))
      (Failed vk succeeds first owned) := by
  refine readImageHandles_meets.bind fun handles => ?_
  refine (create_meets (needed 0 (by omega)) begun).bind fun image => ?_
  refine (create_meets (needed 1 (by omega)) (by simp)).bind fun memory => ?_
  refine (require_meets (needed 2 (by omega)) (by simp)).bind fun _ => ?_
  refine (importSemaphore_meets (fun call less => needed_from needed 3 call (by omega))
    (by simp)).bind fun renderingDone => ?_
  refine (importSemaphore_meets (fun call less => needed_from needed 5 call (by omega))
    (by simp)).bind fun copyingDone => ?_
  exact Meets.pure fun _ progress => progress

/-- A command buffer takes three. -/
theorem recordCommandBuffer_meets {pool : Handle}
    (needed : ∀ call < 3, succeeds → vk (first + (made + call)) = .success)
    (begun : made = 0 ↔ leaked = []) :
    Meets (Progress vk first made (leaked ++ owned)) (recordCommandBuffer vk pool)
      (fun buffer => Progress vk first (made + 3) (((.commandBuffer, buffer) :: leaked) ++ owned))
      (Failed vk succeeds first owned) := by
  refine (allocateCommandBuffer_meets (needed 0 (by omega)) begun).bind fun buffer => ?_
  refine (require_meets (needed 1 (by omega)) (by simp)).bind fun _ => ?_
  refine (require_meets (needed 2 (by omega)) (by simp)).bind fun _ => ?_
  exact Meets.pure fun _ progress => progress

/-- What is added to an imported image takes seven. -/
theorem createImage_meets {session : SessionState} {imported : ImportedImage}
    (needed : ∀ call < 7, succeeds → vk (first + (made + call)) = .success)
    (begun : made = 0 ↔ leaked = []) :
    Meets (Progress vk first made (leaked ++ owned)) (createImage vk session imported)
      (fun image p => image.imported = imported ∧
        Progress vk first (made + 7) (image.added ++ (leaked ++ owned)) p)
      (Failed vk succeeds first owned) := by
  refine (create_meets (needed 0 (by omega)) begun).bind fun fence => ?_
  refine (recordCommandBuffer_meets (fun call less => needed_from needed 1 call (by omega))
    (by simp)).bind fun acquire => ?_
  refine (recordCommandBuffer_meets (fun call less => needed_from needed 4 call (by omega))
    (by simp)).bind fun release => ?_
  exact Meets.pure fun _ progress => ⟨rfl, progress⟩

/-- The loops create the objects of all images, or they throw. -/
theorem createImages_meets (session : SessionState) (numImages : Nat)
    (needed : succeeds → ∀ call < 14 * numImages, vk (first + call) = .success) :
    Meets (Progress vk first 0 owned) (createImages vk session numImages)
      (fun images => Progress vk first (14 * numImages)
        (images.flatMap OwnedImage.objects ++ owned))
      (Failed vk succeeds first owned) := by
  have imports : Meets (Progress vk first 0 ([] ++ owned)) (importImages vk numImages)
      (fun imported p => List.Forall₂ (fun _ _ => True) (List.range numImages) imported ∧
        Progress vk first (0 + 7 * (List.range numImages).length)
          (imported.flatMap ImportedImage.objects ++ ([] ++ owned)) p)
      (Failed vk succeeds first owned) := by
    refine collect_meets (fun _ => List.cons_ne_nil _ _) (by omega) (by simp) ?_
    intro earlier index later whole held begun
    have bounded : earlier.length < numImages := by
      have counted := congrArg List.length whole
      rw [List.length_range, List.length_append, List.length_cons] at counted
      omega
    refine (importImage_meets (fun call less succeed => ?_) begun).consequence
      (fun _ progress => progress) (fun _ _ progress => ⟨trivial, progress⟩)
      fun _ failed => failed
    exact needed succeed _ (by omega)
  refine imports.bind fun imported p imported_p => ?_
  obtain ⟨counts, progress⟩ := imported_p
  have counted : imported.length = numImages := by
    rw [← counts.length_eq, List.length_range]
  rw [List.length_range, Nat.zero_add, List.nil_append] at progress
  have begun : 7 * numImages = 0 ↔ imported.flatMap ImportedImage.objects = [] := by
    have started := @begun_images 0 [] _ ImportedImage.objects 7
      (fun _ => List.cons_ne_nil _ _) (by omega) imported (by simp)
    rw [counted, Nat.zero_add, List.append_nil] at started
    exact started
  have creates := @collect_meets vk succeeds first (7 * numImages)
    (imported.flatMap ImportedImage.objects) owned _ _ (createImage vk session)
    (fun imported image => image.imported = imported) OwnedImage.added 7 imported
    (fun _ => List.cons_ne_nil _ _) (by omega) begun ?_
  · refine creates.consequence (fun _ progress => progress) (fun images p' ended => ?_)
      (fun _ failed => failed) p progress
    obtain ⟨same, further⟩ := ended
    have parts : images.map OwnedImage.imported = imported := by
      clear creates begun counted counts progress further
      induction same with
      | nil => rfl
      | cons one _ ih => rw [List.map_cons, one, ih]
    rw [counted, ← Nat.add_mul] at further
    refine further.perm ?_
    rw [← List.append_assoc, ← parts]
    exact (objects_perm images).append_right owned
  · intro earlier item later whole held begun
    have bounded : earlier.length < numImages := by
      have split := congrArg List.length whole
      rw [counted, List.length_append, List.length_cons] at split
      omega
    refine createImage_meets (fun call less succeed => ?_) begun
    exact needed succeed _ (by omega)

end Creation

/-- The objects of the registered swapchains. -/
def State.owned (s : State) : List (Kind × Nat) := s.swapchainStates.owned Swapchain.objects

/-- The live objects are exactly those of the registered swapchains, and the others have been
destroyed once. -/
def State.Settled (s : State) : Prop := s.platform.ledger.Settled s.owned

/-- The condition on the calls: a creation that reaches its loops completes them or fails in its
first Vulkan call, and a session that is destroyed does not share its command pool with the
swapchains of another one. -/
def Spares (s : State) : Call → Prop
  | .createSwapchain vk _ returned session createInfo =>
    ∀ message ∈ returned, message.result = .success →
      s.sessionStates.lookup session ≠ none → imageTypeOf createInfo.usageFlags ≠ none →
        (∀ call < 14 * message.numImages, vk (s.platform.issued + call) = .success) ∨
          vk s.platform.issued ≠ .success
  | .destroySession _ _ _ session =>
    ∀ state ∈ s.sessionStates.lookup session, ∀ swapchain,
      ∀ child ∈ s.swapchainStates.lookup swapchain, child.parentHandle ≠ session →
        ∀ name, (Kind.commandBuffer, name) ∈ child.objects →
          s.platform.allocatedFrom name ≠ state.commandPool
  | .destroySwapchain .. | .createSession _ => True

section Settled

variable {s : State}

/-- A new swapchain owns its objects. -/
theorem owned_register {session : SessionState} {swapchain : Swapchain}
    (unregistered : s.swapchainStates.lookup swapchain.handle = none) :
    (s.register session swapchain).owned = swapchain.objects ++ s.owned := by
  have stored : (s.register session swapchain).swapchainStates =
      s.swapchainStates.insert swapchain.handle swapchain :=
    Registry.emplace_of_none unregistered
  rw [State.owned, stored]
  exact Registry.owned_insert unregistered

/-- A creation keeps the objects settled exactly if it completes or creates nothing. -/
theorem createSwapchain_balanced_iff (balanced : s.platform.ledger.Balanced s.owned)
    (vk : Nat → VkResult) (next : Option XrResult) (returned : Option CreateSwapchainReturn)
    (session : Handle) (createInfo : SwapchainCreateInfo)
    (fresh : ∀ message ∈ returned, message.result = .success →
      s.sessionStates.lookup session ≠ none → s.swapchainStates.lookup message.handle = none) :
    let s' := (xrCreateSwapchain vk next returned session createInfo s).2
    s'.platform.ledger.Balanced s'.owned ↔
      Spares s (.createSwapchain vk next returned session createInfo) := by
  simp only [xrCreateSwapchain_eq, Spares]
  cases found : s.sessionStates.lookup session with
  | none => simp [balanced]
  | some sessionState =>
    cases returned with
    | none => simp [balanced]
    | some message =>
      by_cases refused : message.result = .success
      case neg => simp [refused, balanced]
      cases type : imageTypeOf createInfo.usageFlags with
      | none => simp [refused, balanced]
      | some imageType =>
        have unregistered := fresh message rfl refused (by rw [found]; simp)
        have creates := @createImages_meets vk _ s.platform.issued s.owned sessionState
          message.numImages id s.platform
          ⟨balanced, rfl, fun _ none => absurd none (Nat.not_lt_zero _)⟩
        rcases made : createImages vk sessionState message.numImages s.platform with
          ⟨_ | images, platform⟩
        · rw [made] at creates
          obtain ⟨leaked, left, nothing⟩ := creates.leaks
          have failed := creates.unsuccessful
          simp only [refused, ne_eq, not_true_eq_false, if_false, made, Option.mem_def,
            Option.some.injEq, reduceCtorEq, not_false_eq_true, forall_const, forall_eq',
            failed, false_or]
          rw [← ne_eq, ← nothing]
          constructor
          · intro settled
            exact left.eq_nil settled
          · rintro rfl
            exact left
        · rw [made] at creates
          simp only [refused, ne_eq, not_true_eq_false, if_false, made, Option.mem_def,
            Option.some.injEq, reduceCtorEq, not_false_eq_true, forall_const, forall_eq']
          refine iff_of_true ?_ (.inl creates.succeeded)
          rw [@owned_register { s with platform } sessionState
            (newSwapchain createInfo message.handle session images imageType) unregistered]
          exact creates.balanced

/-- Destroying a swapchain destroys all it owns. -/
theorem xrDestroySwapchain_balanced (consistent : s.Consistent)
    (balanced : s.platform.ledger.Balanced s.owned) (next : Option XrResult) (returned : Bool)
    (swapchain : Handle) :
    let s' := (xrDestroySwapchain next returned swapchain s).2
    s'.platform.ledger.Balanced s'.owned ∧
      s'.platform.allocatedFrom = s.platform.allocatedFrom := by
  simp only [xrDestroySwapchain_eq]
  cases registered : s.swapchainStates.lookup swapchain with
  | none => exact ⟨balanced, rfl⟩
  | some state =>
    obtain ⟨session, found, -⟩ := consistent.named swapchain state registered
    simp only [found]
    refine ⟨?_, rfl⟩
    exact (balanced.perm (Registry.owned_erase registered)).destroy

/-- So does the loop over the swapchains of a session. -/
theorem destroySwapchains_balanced (returned : Handle → Bool) (swapchains : List Handle)
    (consistent : s.Consistent) (balanced : s.platform.ledger.Balanced s.owned) :
    let s' := destroySwapchains returned swapchains s
    s'.platform.ledger.Balanced s'.owned ∧
      s'.platform.allocatedFrom = s.platform.allocatedFrom := by
  induction swapchains generalizing s with
  | nil => exact ⟨balanced, rfl⟩
  | cons swapchain rest ih =>
    obtain ⟨first, same⟩ :=
      xrDestroySwapchain_balanced consistent balanced none (returned swapchain) swapchain
    have agree :=
      (xrDestroySwapchain_spec consistent none (returned swapchain) swapchain).consistent
    obtain ⟨last, kept⟩ := ih agree first
    exact ⟨last, kept.trans same⟩

/-- A command pool can be destroyed when no command buffer in it is owned. -/
theorem destroyCommandPool_balanced_iff {platform : Platform} {owned : List (Kind × Nat)}
    (balanced : platform.ledger.Balanced owned) (pool : Handle) :
    (platform.destroyCommandPool pool).ledger.Balanced owned ↔
      ∀ name, (Kind.commandBuffer, name) ∈ owned → platform.allocatedFrom name ≠ pool := by
  have empty : (platform.destroyCommandPool pool).ledger.Balanced owned ↔
      platform.buffersOf pool = [] := by
    constructor
    · intro after
      have before := balanced.length
      have counted := after.length
      have created : (platform.destroyCommandPool pool).ledger.created =
        platform.ledger.created := rfl
      have destroyed : (platform.destroyCommandPool pool).ledger.destroyed =
        platform.buffersOf pool ++ platform.ledger.destroyed := rfl
      rw [created, destroyed, List.length_append] at counted
      exact List.length_eq_zero_iff.mp (by omega)
    · intro none
      rw [Platform.destroyCommandPool, none]
      exact balanced
  have settled := Ledger.settled_iff.mpr balanced
  rw [empty, Platform.buffersOf, List.filter_eq_nil_iff]
  constructor
  · intro none name own from_pool
    obtain ⟨created, live⟩ := (settled.live _).mp own
    exact none _ created (by simp [from_pool, live])
  · rintro free ⟨kind, name⟩ created buffer
    simp only [Bool.and_eq_true, beq_iff_eq, Bool.not_eq_true', List.contains_eq_mem,
      decide_eq_false_iff_not] at buffer
    obtain ⟨⟨rfl, from_pool⟩, live⟩ := buffer
    exact free name ((settled.live _).mpr ⟨created, live⟩) from_pool

/-- Destroying a session keeps the objects settled exactly if it frees no command buffer of a
swapchain of another session. -/
theorem destroySession_balanced_iff (consistent : s.Consistent)
    (balanced : s.platform.ledger.Balanced s.owned) (next : Option XrResult)
    (swapchainReturned : Handle → Bool) (returned : Bool) (session : Handle) :
    let s' := (xrDestroySession next swapchainReturned returned session s).2
    s'.platform.ledger.Balanced s'.owned ↔
      Spares s (.destroySession next swapchainReturned returned session) := by
  simp only [xrDestroySession_eq, Spares]
  cases found : s.sessionStates.lookup session with
  | none => simp [balanced]
  | some state =>
    obtain ⟨after, same⟩ :=
      destroySwapchains_balanced swapchainReturned state.swapchains consistent balanced
    have destroyed := destroySwapchains_spec consistent swapchainReturned state.swapchains
    set s' := destroySwapchains swapchainReturned state.swapchains s
    have pool := destroyCommandPool_balanced_iff after state.commandPool
    refine pool.trans ?_
    simp only [Option.mem_def, Option.some.injEq, forall_eq', same, State.owned,
      Registry.mem_owned]
    constructor
    · intro free swapchain child registered other name own
      refine free name ⟨swapchain, child, ?_, own⟩
      rw [destroyed.others swapchain ?_]
      · exact registered
      · intro lists
        obtain ⟨listed, looked, parent⟩ := consistent.listed session state found swapchain lists
        rw [registered] at looked
        obtain rfl := Option.some.inj looked
        exact other parent
    · rintro free name ⟨swapchain, child, registered, own⟩
      obtain ⟨other, before⟩ := destroyed.childless consistent found registered
      exact free swapchain child before other name own

end Settled

/-- A call keeps the objects settled exactly if it meets the condition. -/
theorem perform_settled_iff {world : World} {alive' : List (Handle × Handle)}
    (sound : world.Sound) (settled : world.state.Settled) (call : Call)
    (lawful : Lawful call world.alive alive') :
    (call.perform world.state).Settled ↔ Spares world.state call := by
  have balanced := Ledger.settled_iff.mp settled
  rw [State.Settled, Ledger.settled_iff]
  cases call with
  | createSwapchain vk next returned session createInfo =>
    refine createSwapchain_balanced_iff balanced vk next returned session createInfo ?_
    intro message arrived success _
    obtain rfl : returned = some message := arrived
    have begun : (Call.createSwapchain vk next (some message) session createInfo).begun =
        some (message.handle, session) := if_pos success
    obtain ⟨fresh, -⟩ := lawful.2 _ begun
    cases old : world.state.swapchainStates.lookup message.handle with
    | none => rfl
    | some state =>
      have living := sound.living message.handle state old
      exact absurd rfl (fresh (message.handle, state.parentHandle) living)
  | destroySwapchain next returned swapchain =>
    have kept := xrDestroySwapchain_balanced sound.consistent balanced next returned swapchain
    exact iff_of_true kept.1 trivial
  | createSession call =>
    have same : (xrCreateSession call world.state).2.platform = world.state.platform ∧
        (xrCreateSession call world.state).2.owned = world.state.owned := by
      rw [xrCreateSession_eq]
      split
      · exact ⟨rfl, rfl⟩
      split
      · exact ⟨rfl, rfl⟩
      split
      · exact ⟨rfl, rfl⟩
      split <;> exact ⟨rfl, rfl⟩
    refine iff_of_true ?_ trivial
    rw [Call.perform, same.1, same.2]
    exact balanced
  | destroySession next swapchainReturned returned session =>
    exact destroySession_balanced_iff sound.consistent balanced next swapchainReturned returned
      session

/-- In every run the objects are settled throughout exactly if the calls meet the condition
throughout. -/
theorem objects_settled_iff {start world : World} (started : Started start)
    (first : start.state.Settled) {labels : List (Call × List (Handle × Handle))}
    (ran : (system start).run start labels = some world) :
    ((system start).Along (fun world _ => world.state.Settled) start labels ∧
      world.state.Settled) ↔
      (system start).Along (fun world label => Spares world.state label.1) start labels := by
  refine (system start).along_holds_iff_of_invariant
    (fun _ _ _ sound _ taken => step_sound sound taken)
    (fun before label after sound settled taken => ?_) started.sound first ran
  obtain ⟨lawful, rfl⟩ := step_eq_some taken
  exact perform_settled_iff sound settled label.1 lawful

end XrTransport.Vulkan.Client.Registry
