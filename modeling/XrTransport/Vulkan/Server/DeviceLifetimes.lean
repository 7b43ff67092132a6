import XrTransport.Vulkan.Server.SwapchainObjects

/-!
# The server's Vulkan device over several instances

The Vulkan module sets up a device for every instance, in steps that may each fail, and keeps its
swapchains when the instance goes. The runtime destroys the device with the instance. What is
registered belongs to the device that is there as long as an instance is destroyed only when nothing
is registered, and nothing is done with one whose set-up has failed.
-/
namespace XrTransport.Vulkan.Server

open Vulkan.Client (Handle)
open Program

namespace Registry

/-- The live objects are those of the registered swapchains, each of one swapchain, and some that
have been left over. -/
def State.Intact (s : State) : Prop := ∃ left, s.platform.ledger.Settled (left ++ s.owned)

/-- What a request does to the objects: it keeps those of the registered swapchains live, and what
is registered then was registered before or has been created since. -/
structure Grown (s s' : State) : Prop where
  /-- What is registered is live. -/
  intact : s'.Intact
  /-- What is registered is not older than it has to be. -/
  owned : ∀ object ∈ s'.owned, object ∈ s.owned ∨ s.platform.ledger.next ≤ object.2
  /-- No object is forgotten. -/
  next : s.platform.ledger.next ≤ s'.platform.ledger.next

section Newer

variable {answers : CreateAnswers} {born commandPool createFlags : Nat}

/-- There are so many objects at least. -/
def Newer (born : Nat) (p : Platform) : Prop := born ≤ p.ledger.next

/-- A new object is named by the number of objects before it. -/
theorem create_newer {vk : Nat → VkResult} {kind : Kind} :
    Meets (Newer born) (Platform.create vk kind) (fun name p => born ≤ name ∧ Newer born p)
      (Newer born) := by
  intro p newer
  rw [Platform.create]
  by_cases called : vk p.issued = .success
  · rw [if_pos called]
    have more : (p.ledger.create kind).next = p.ledger.next + 1 := List.length_cons
    have older : born ≤ (p.ledger.create kind).next := by
      rw [more]
      exact Nat.le_succ_of_le newer
    exact ⟨newer, older⟩
  · rw [if_neg called]
    exact newer

/-- A call that only returns a result creates nothing. -/
theorem require_newer {vk : Nat → VkResult} :
    Meets (Newer born) (Platform.require vk) (fun _ => Newer born) (Newer born) := by
  intro p newer
  rw [Platform.require]
  by_cases called : vk p.issued = .success
  · rw [if_pos called]
    exact newer
  · rw [if_neg called]
    exact newer

/-- A command buffer is an object too. -/
theorem allocateCommandBuffer_newer {vk : Nat → VkResult} {pool : Nat} :
    Meets (Newer born) (Platform.allocateCommandBuffer vk pool)
      (fun name p => born ≤ name ∧ Newer born p) (Newer born) :=
  create_newer.bind fun _ _ holds => holds

/-- Reading a value creates nothing. -/
theorem ofOption_newer {α : Type} {value : Option α} :
    Meets (Newer born) (Program.ofOption value) (fun _ => Newer born) (Newer born) := by
  cases value with
  | none => exact Meets.throw fun _ newer => newer
  | some value => exact fun _ newer => newer

/-- The objects of an image are new. -/
theorem createImage_newer {index : Nat} :
    Meets (Newer born) (createImage answers commandPool createFlags index)
      (fun image p => (∀ object ∈ image.objects, born ≤ object.2) ∧ Newer born p)
      (Newer born) := by
  refine create_newer.bind fun image => Meets.assuming fun first => ?_
  refine ofOption_newer.bind fun _ => ?_
  refine create_newer.bind fun memory => Meets.assuming fun second => ?_
  refine require_newer.bind fun _ => ?_
  refine create_newer.bind fun renderingDone => Meets.assuming fun third => ?_
  refine create_newer.bind fun copyingDone => Meets.assuming fun fourth => ?_
  refine allocateCommandBuffer_newer.bind fun buffer => Meets.assuming fun fifth => ?_
  refine create_newer.bind fun fence => Meets.assuming fun sixth => ?_
  refine Meets.pure fun p newer => ⟨?_, newer⟩
  simp only [OwnedImage.objects, List.forall_mem_cons]
  exact ⟨sixth, fifth, fourth, third, second, first, List.forall_mem_nil _⟩

/-- The objects of some images are new, and none is forgotten. -/
def ImagesNewer (born : Nat) (images : List OwnedImage) (p : Platform) : Prop :=
  (∀ object ∈ images.flatMap OwnedImage.objects, born ≤ object.2) ∧ Newer born p

/-- So are those of all images. -/
theorem createImages_newer :
    Meets (Newer born) (createImages answers commandPool createFlags)
      (fun images => ImagesNewer born images) (Newer born) := by
  have step : ∀ earlier index later images, List.range answers.enumerated.2.length =
      earlier ++ index :: later → Meets (ImagesNewer born images)
        (createImage answers commandPool createFlags index)
        (fun image => ImagesNewer born (images ++ [image])) (Newer born) := by
    intro earlier index later images _
    refine Meets.assuming fun before => ?_
    refine createImage_newer.consequence (fun _ => id) (fun image p created => ?_) fun _ => id
    refine ⟨fun object member => ?_, created.2⟩
    rw [List.flatMap_append, List.flatMap_singleton] at member
    rcases List.mem_append.mp member with earlier | last
    · exact before object earlier
    · exact created.1 object last
  have loop : Meets (ImagesNewer born []) (createImages answers commandPool createFlags)
      (fun images => ImagesNewer born images) (Newer born) :=
    Meets.collect step
  exact loop.consequence (fun p newer => ⟨List.forall_mem_nil _, newer⟩) (fun _ _ => id)
    fun _ => id

end Newer

section Grown

variable {s : State}

/-- Where no object is touched and nothing is registered nothing changes. -/
theorem Grown.same {s' : State} (intact : s.Intact) (platform : s'.platform = s.platform)
    (swapchains : s'.swapchainStates = s.swapchainStates) : Grown s s' := by
  have owned : s'.owned = s.owned := by rw [State.owned, swapchains, State.owned]
  refine ⟨?_, fun object own => ?_, ?_⟩
  · rw [State.Intact, owned, platform]
    exact intact
  · rw [owned] at own
    exact .inl own
  · rw [platform]

/-- What two requests do in order. -/
theorem Grown.trans {s' s'' : State} (first : Grown s s') (second : Grown s' s'') :
    Grown s s'' := by
  refine ⟨second.intact, fun object own => ?_, Nat.le_trans first.next second.next⟩
  rcases second.owned object own with earlier | new
  · exact first.owned object earlier
  · exact .inr (Nat.le_trans first.next new)

/-- What has been created for a swapchain that is not registered is left over. -/
theorem Grown.left {platform : Platform} {leaked left : List (Kind × Nat)}
    (balanced : platform.ledger.Balanced (leaked ++ (left ++ s.owned)))
    (next : s.platform.ledger.next ≤ platform.ledger.next) : Grown s { s with platform } := by
  refine ⟨⟨leaked ++ left, ?_⟩, fun object own => .inl own, next⟩
  rw [List.append_assoc]
  exact Ledger.settled_iff.mpr balanced

/-- A swapchain is registered with new objects. -/
theorem Grown.register {platform platform' : Platform} {left : List (Kind × Nat)}
    {session : SessionState} {swapchain : Swapchain}
    (unregistered : s.swapchainStates.lookup swapchain.handle = none)
    (balanced : platform.ledger.Balanced (swapchain.objects ++ (left ++ s.owned)))
    (new : ∀ object ∈ swapchain.objects, s.platform.ledger.next ≤ object.2)
    (next : s.platform.ledger.next ≤ platform.ledger.next)
    (written : platform'.ledger = platform.ledger) :
    Grown s
      { State.register { s with platform } session swapchain with platform := platform' } := by
  have owned : State.owned (State.register { s with platform } session swapchain) =
      swapchain.objects ++ s.owned := by
    rw [State.owned, State.register]
    dsimp only
    rw [Registry.emplace_of_none unregistered, Registry.owned_insert unregistered]
    rfl
  refine ⟨⟨left, ?_⟩, fun object own => ?_, ?_⟩
  · have swapped := balanced.perm (List.perm_append_comm_assoc swapchain.objects left s.owned)
    rw [← owned, ← written] at swapped
    exact Ledger.settled_iff.mpr swapped
  · have either : object ∈ swapchain.objects ++ s.owned := by
      rw [← owned]
      exact own
    rcases List.mem_append.mp either with one | old
    · exact .inr (new object one)
    · exact .inl old
  · dsimp only
    rw [written]
    exact next

/-- What `handle_create_swapchain` does to the objects, however far it gets. -/
theorem handleCreateSwapchain_grown (sound : s.Sound) (intact : s.Intact) (decodes : Bool)
    (answers : CreateAnswers) (session : Handle) (createInfo : SwapchainCreateInfo)
    (lawful : Lawful s (.createSwapchain decodes answers session createInfo)) :
    Grown s (handleCreateSwapchain decodes answers session createInfo s).2 := by
  rw [handleCreateSwapchain_eq]
  cases decodes with
  | false => exact .same intact rfl rfl
  | true =>
    obtain ⟨platform_eq, _, swapchains_eq, _, _⟩ := @runtimeCreates_same s answers session
    have created : Grown s (s.runtimeCreates answers session) :=
      .same intact platform_eq swapchains_eq
    by_cases refused : answers.created.1 ≠ .success
    · simp only [Bool.not_true, Bool.false_eq_true, if_false, if_pos refused]
      exact created
    have success : answers.created.1 = .success := not_not.mp refused
    have unregistered := sound.unregistered (lawful (by rw [success]; rfl))
    rw [← swapchains_eq] at unregistered
    simp only [Bool.not_true, Bool.false_eq_true, if_false, if_neg refused]
    generalize s.runtimeCreates answers session = s' at *
    split
    · exact created
    next sessionState found =>
    split
    · exact created
    obtain ⟨left, settled⟩ := created.intact
    have creates := @createImages_meets answers False s'.platform.issued (left ++ s'.owned)
      s'.savedVkCommandPool createInfo.createFlags False.elim False.elim s'.platform
      ⟨Ledger.settled_iff.mp settled, rfl, fun _ none => absurd none (Nat.not_lt_zero _)⟩
    have newer := @createImages_newer answers s'.platform.ledger.next s'.savedVkCommandPool
      createInfo.createFlags s'.platform (Nat.le_refl _)
    rcases made : createImages answers s'.savedVkCommandPool createInfo.createFlags
      s'.platform with ⟨_ | images, platform⟩
    · rw [made] at creates newer
      obtain ⟨leaked, balanced, _⟩ := creates.leaks
      exact created.trans (.left balanced newer)
    · rw [made] at creates newer
      obtain ⟨_, _, progress⟩ := creates
      cases type : imageTypeOf createInfo.usageFlags with
      | none => exact created.trans (.left progress.balanced newer.2)
      | some imageType =>
        have written := writeImages_keeps answers.vk ((s'.swapchainStates.lookup
          answers.created.2).getD (newSwapchain answers createInfo session images
            imageType)).sharedImages platform
        exact created.trans (.register unregistered progress.balanced newer.1 newer.2 written)

/-- The objects of an image are its fence and those that are destroyed. -/
theorem OwnedImage.objects_perm (image : OwnedImage) :
    image.objects.Perm (image.destroyed ++ [(.fence, image.commandBufferFence)]) := by
  have same : [(Kind.commandBuffer, image.commandBuffer), (.semaphore, image.copyingDone),
      (.semaphore, image.renderingDone), (.memory, image.sharedMemory),
      (.image, image.image)].Perm image.destroyed := by
    refine .cons _ ?_
    exact List.reverse_perm [(Kind.image, image.image), (.memory, image.sharedMemory),
      (.semaphore, image.renderingDone), (.semaphore, image.copyingDone)]
  exact (same.cons _).trans (List.perm_append_singleton _ _).symm

/-- So it is for all images: when a swapchain is destroyed its fences are left over. -/
theorem objects_perm (images : List OwnedImage) :
    (images.flatMap OwnedImage.objects).Perm (images.flatMap OwnedImage.destroyed ++
      images.map fun image => (.fence, image.commandBufferFence)) := by
  induction images with
  | nil => exact .refl _
  | cons image rest ih =>
    rw [List.flatMap_cons, List.flatMap_cons, List.map_cons, List.append_assoc]
    refine (image.objects_perm.append ih).trans ?_
    rw [List.append_assoc]
    exact (List.perm_append_comm_assoc _ _ _).append_left _

/-- What `destroy_swapchain` does to the objects. -/
theorem destroySwapchain_grown (intact : s.Intact) (ended : Bool) (swapchain : Handle) :
    Grown s (destroySwapchain ended swapchain s).2 := by
  rw [destroySwapchain_eq]
  cases registered : s.swapchainStates.lookup swapchain with
  | none => exact .same intact rfl rfl
  | some state =>
    cases found : s.sessionStates.lookup state.parentHandle with
    | none =>
      simp only [found]
      exact .same intact rfl rfl
    | some session =>
      simp only [found]
      obtain ⟨left, settled⟩ := intact
      have erased : s.owned.Perm (state.objects ++
          Registry.owned Swapchain.objects (s.swapchainStates.erase swapchain)) :=
        Registry.owned_erase registered
      have balanced := (Ledger.settled_iff.mp settled).perm (erased.append_left left)
      refine ⟨⟨(state.sharedImages.map fun image => (.fence, image.commandBufferFence)) ++ left,
        ?_⟩, fun object own => .inl ?_, Nat.le_refl _⟩
      · refine Ledger.settled_iff.mpr (Ledger.Balanced.destroy (balanced.perm ?_))
        refine (List.perm_append_comm_assoc _ _ _).trans ?_
        refine ((objects_perm state.sharedImages).append_right _).trans ?_
        rw [List.append_assoc, List.append_assoc]
        exact .refl _
      · exact erased.symm.subset (List.mem_append_right _ own)

/-- What any request does to the objects. -/
theorem perform_grown (sound : s.Sound) (intact : s.Intact) (request : Request)
    (lawful : Lawful s request) : Grown s (request.perform s) := by
  cases request with
  | createSwapchain decodes answers session createInfo =>
    exact handleCreateSwapchain_grown sound intact decodes answers session createInfo lawful
  | destroySwapchain decodes ended swapchain =>
    cases decodes with
    | false => exact .same intact rfl rfl
    | true => exact destroySwapchain_grown intact ended swapchain
  | createSession created =>
    cases succeeded : created.1.succeeded with
    | false =>
      have same : (Request.createSession created).perform s = s := by
        simp [Request.perform, handleCreateSession, succeeded, Program.throw]
      rw [same]
      exact .same intact rfl rfl
    | true =>
      have stored : ((Request.createSession created).perform s) = { s with
          sessionStates := s.sessionStates.emplace created.2 { handle := created.2 } } := by
        simp [Request.perform, handleCreateSession, succeeded, Program.bind_apply,
          Program.andThen, Program.modify]
      rw [stored]
      exact .same intact rfl rfl
  | destroySession ended session =>
    rw [Request.perform, handleDestroySession_eq sound.consistent]
    cases found : s.sessionStates.lookup session with
    | none => exact .same intact rfl rfl
    | some state =>
      cases swapchains : state.swapchains with
      | nil =>
        simp only [swapchains]
        unfold State.runtimeDestroys
        split
        · exact .same intact rfl rfl
        · exact .same intact rfl rfl
      | cons swapchain rest =>
        have destroyed := destroySwapchain_grown intact ended swapchain
        simp only [swapchains]
        exact ⟨destroyed.intact, destroyed.owned, destroyed.next⟩

end Grown

section Parts

variable {s : State}

/-- Where nothing is registered a command pool can be destroyed: what was allocated from it has been
left over. -/
theorem destroyCommandPool_intact (intact : s.Intact) (empty : s.owned = []) (pool : Nat) :
    State.Intact { s with platform := s.platform.destroyCommandPool pool } := by
  obtain ⟨left, settled⟩ := intact
  rw [empty, List.append_nil] at settled
  have buffers : ∀ object ∈ s.platform.buffersOf pool, object ∈ left := by
    intro object member
    obtain ⟨created, chosen⟩ := List.mem_filter.mp member
    have kept : object ∉ s.platform.ledger.destroyed := by
      rw [Bool.and_eq_true, Bool.not_eq_true'] at chosen
      intro destroyed
      rw [List.contains_iff_mem.mpr destroyed] at chosen
      exact Bool.noConfusion chosen.2
    exact (settled.live object).mpr ⟨created, kept⟩
  have distinct : (s.platform.buffersOf pool).Nodup := s.platform.ledger.created_nodup.filter _
  have split : (s.platform.buffersOf pool ++ left.diff (s.platform.buffersOf pool)).Perm left := by
    apply List.subperm_append_diff_self_of_count_le
    intro object member
    rw [List.count_eq_one_of_mem distinct member]
    exact List.count_pos_iff.mpr (buffers object member)
  refine ⟨left.diff (s.platform.buffersOf pool), ?_⟩
  have kept : State.owned { s with platform := s.platform.destroyCommandPool pool } = [] := empty
  rw [kept, List.append_nil]
  have balanced := (Ledger.settled_iff.mp settled).perm split.symm
  exact Ledger.settled_iff.mpr balanced.destroy

/-- What the creation of a swapchain does to what is alive. -/
theorem handleCreateSwapchain_alive (decodes : Bool) (answers : CreateAnswers) (session : Handle)
    (createInfo : SwapchainCreateInfo) :
    (handleCreateSwapchain decodes answers session createInfo s).2.undefined = s.undefined ∧
      ∀ pair ∈ (handleCreateSwapchain decodes answers session createInfo s).2.alive,
        pair ∈ s.alive ∨ answers.created.1.succeeded = true ∧ pair.2 = session := by
  have created : (s.runtimeCreates answers session).undefined = s.undefined ∧
      ∀ pair ∈ (s.runtimeCreates answers session).alive,
        pair ∈ s.alive ∨ answers.created.1.succeeded = true ∧ pair.2 = session := by
    rw [State.runtimeCreates]
    split
    next succeeded =>
      refine ⟨rfl, fun pair member => ?_⟩
      rcases List.mem_cons.mp member with rfl | old
      · exact .inr ⟨succeeded, rfl⟩
      · exact .inl old
    next => exact ⟨rfl, fun pair member => .inl member⟩
  rw [handleCreateSwapchain_eq]
  cases decodes with
  | false => exact ⟨rfl, fun pair member => .inl member⟩
  | true =>
    by_cases refused : answers.created.1 ≠ .success
    · simp only [Bool.not_true, Bool.false_eq_true, if_false, if_pos refused]
      exact created
    simp only [Bool.not_true, Bool.false_eq_true, if_false, if_neg refused]
    split
    · exact created
    split
    · exact created
    split
    · exact created
    · exact created
    · exact created

/-- A swapchain that is destroyed goes, whatever else is alive. -/
theorem destroySwapchain_alive (ended : Bool) (swapchain : Handle) :
    (destroySwapchain ended swapchain s).2.undefined = s.undefined ∧
      ∀ pair ∈ (destroySwapchain ended swapchain s).2.alive, pair ∈ s.alive := by
  rw [destroySwapchain_eq]
  split
  · exact ⟨rfl, fun pair member => member⟩
  · split
    · exact ⟨rfl, fun pair member => member⟩
    · refine ⟨rfl, fun pair member => ?_⟩
      rw [State.unregister] at member
      dsimp only at member
      split at member
      · exact List.mem_of_mem_filter member
      · exact member

/-- A session that lists no swapchain is destroyed without a loop. -/
theorem destroySession_childless (sound : s.Sound) {session : Handle}
    (childless : ∀ state ∈ s.sessionStates.lookup session, state.swapchains = []) (ended : Bool) :
    Request.perform s (.destroySession ended session) =
      if (s.sessionStates.lookup session).isSome then s.runtimeDestroys ended session else s := by
  rw [Request.perform, handleDestroySession_eq sound.consistent]
  cases found : s.sessionStates.lookup session with
  | none => rfl
  | some state =>
    have none := childless state found
    simp only [none, Option.isSome_some, if_true]

/-- One that lists a swapchain is not. -/
theorem destroySession_undefined (sound : s.Sound) {ended : Bool} {session : Handle}
    (defined : (Request.perform s (.destroySession ended session)).undefined = false) :
    ∀ state ∈ s.sessionStates.lookup session, state.swapchains = [] := by
  intro state found
  cases swapchains : state.swapchains with
  | nil => rfl
  | cons swapchain rest =>
    rw [Request.perform, handleDestroySession_eq sound.consistent, found] at defined
    simp only [swapchains] at defined
    exact Bool.noConfusion defined

end Parts

end Registry

namespace Instances

/-- Which functions a `VulkanLoader` has loaded. -/
inductive Loaded where
  /-- `init_global`. -/
  | initGlobal
  /-- `init_instance`, which leaves the functions of the device null. -/
  | initInstance
  /-- `init_device`. -/
  | initDevice
deriving DecidableEq, Repr

/-- `VkQueueFamilyProperties`. -/
structure QueueFamily where
  /-- `queueCount`. -/
  queueCount : Nat
  /-- `queueFlags`. -/
  queueFlags : Nat
deriving DecidableEq, Repr

/-- `VK_QUEUE_GRAPHICS_BIT`. -/
def graphicsBit : Nat := 1

/-- `VK_QUEUE_TRANSFER_BIT`. -/
def transferBit : Nat := 4

/-- The family has a queue, and it supports transfer operations. -/
def QueueFamily.suits (family : QueueFamily) : Bool :=
  decide (1 ≤ family.queueCount) &&
    (family.queueFlags &&& transferBit != 0 || family.queueFlags &&& graphicsBit != 0)

/-- `select_queue_family`. The loop goes on after a family that suits. -/
def selectQueueFamily (families : List QueueFamily) : Option Nat :=
  families.zipIdx.foldl (fun found family => if family.1.suits then some family.2 else found) none

/-- What the runtime and Vulkan answer while a device is set up. -/
structure SetupAnswers where
  /-- Every function that `on_instance` needs can be loaded. -/
  loads : Bool
  /-- `xrGetSystem`. -/
  system : XrResult
  /-- `xrGetVulkanGraphicsRequirements2KHR`. -/
  requirements : XrResult
  /-- `xrCreateVulkanInstanceKHR`. -/
  vulkanInstance : VkResult × XrResult
  /-- `xrGetVulkanGraphicsDevice2KHR`. -/
  physicalDevice : XrResult
  /-- The queue families of the physical device. -/
  families : List QueueFamily
  /-- `xrCreateVulkanDeviceKHR`. -/
  vulkanDevice : VkResult × XrResult
  /-- `vkCreateCommandPool`. -/
  commandPool : VkResult × Handle

/-- A device that is there. -/
structure Device where
  /-- The instance that it was created for. -/
  owner : Handle
  /-- How many objects there were before it. -/
  born : Nat
  /-- `saved_vk_command_pool` belongs to it. -/
  pooled : Bool := false
deriving DecidableEq, Repr

/-- The Vulkan module, the instance of the server, and what is alive in the runtime. -/
structure State where
  /-- The sessions and swapchains. -/
  registry : Registry.State := {}
  /-- `vk`. -/
  loaded : Loaded := .initGlobal
  /-- `saved_xr_instance` of the module. -/
  savedXrInstance : Handle := 0
  /-- `queue_family_index`. -/
  queueFamilyIndex : Nat := 0
  /-- `saved_vk_device`, as long as the device is there. -/
  device : Option Device := none
  /-- `saved_instance` of the server. -/
  savedInstance : Handle
  /-- The instances that are alive. -/
  instances : List Handle := []
  /-- The sessions that are alive, with their instances. -/
  sessions : List (Handle × Handle) := []
  /-- A Vulkan function has been called that is not loaded, or without its device. -/
  misused : Bool := false

/-- The device is there, with its command pool and its functions. -/
def State.usable (s : State) : Bool := s.loaded == .initDevice && s.device.any Device.pooled

/-- Go on, or throw. -/
def require (succeeds : Bool) : Program State PUnit :=
  if succeeds then pure ⟨⟩ else Program.throw

/-- `on_instance`, with `setup_vulkan_instance`. -/
def onInstance (answers : SetupAnswers) (handle : Handle) : Program State PUnit := do
  Program.modify fun s => { s with savedXrInstance := handle }
  require answers.loads
  require answers.system.succeeded
  require answers.requirements.succeeded
  require (answers.vulkanInstance.1 == .success)
  require answers.vulkanInstance.2.succeeded
  Program.modify fun s => { s with loaded := .initInstance }
  require answers.physicalDevice.succeeded
  let queueFamilyIndex ← Program.ofOption (selectQueueFamily answers.families)
  Program.modify fun s => { s with queueFamilyIndex }
  require (answers.vulkanDevice.1 == .success)
  require (answers.vulkanDevice.2 == .success)
  Program.modify fun s => { s with
    loaded := .initDevice
    device := some { owner := s.savedXrInstance, born := s.registry.platform.ledger.next } }
  require (answers.commandPool.1 == .success)
  Program.modify fun s => { s with
    registry := { s.registry with savedVkCommandPool := answers.commandPool.2 }
    device := s.device.map fun device => { device with pooled := true } }

/-- `create_instance_handler`. -/
def handleCreateInstance (created : XrResult × Handle) (answers : SetupAnswers) (s : State) :
    State :=
  if created.1.succeeded then
    (onInstance answers created.2
      { s with instances := created.2 :: s.instances, savedInstance := created.2 }).2
  else s

/-- `on_instance_destroy`. -/
def State.onInstanceDestroy (s : State) : State :=
  { s with
    savedXrInstance := 0
    registry := { s.registry with
      platform := s.registry.platform.destroyCommandPool s.registry.savedVkCommandPool }
    device := s.device.map fun device => { device with pooled := false }
    misused := s.misused || !s.usable }

/-- `xrDestroyInstance` of the runtime: the device, the sessions and the swapchains of the instance
end with it. -/
def State.runtimeDestroys (s : State) (handle : Handle) : State :=
  let sessions := s.sessions.filter fun session => session.2 ≠ handle
  { s with
    instances := s.instances.filter (· ≠ handle)
    device := s.device.filter fun device => device.owner ≠ handle
    sessions
    registry := { s.registry with
      alive := s.registry.alive.filter fun pair => sessions.any fun session =>
        session.1 == pair.2 } }

/-- `destroy_instance_handler`. -/
def handleDestroyInstance (handle : Handle) (s : State) : State :=
  if handle = s.savedInstance then
    { s.onInstanceDestroy.runtimeDestroys handle with savedInstance := 0 }
  else s

/-- `destroy_swapchain` gets past its look-ups. -/
def finds (s : Registry.State) (swapchain : Handle) : Bool :=
  (s.swapchainStates.lookup swapchain).any fun state =>
    (s.sessionStates.lookup state.parentHandle).isSome

/-- A handler calls a Vulkan function. -/
def callsVulkan (s : Registry.State) : Registry.Request → Bool
  | .createSwapchain decodes answers session _ =>
    decodes && answers.created.1 == .success && (s.sessionStates.lookup session).isSome &&
      answers.counted.succeeded && answers.enumerated.1.succeeded
  | .destroySwapchain decodes _ swapchain => decodes && finds s swapchain
  | .createSession _ => false
  | .destroySession _ session => (s.swapchainsOf session).head?.any (finds s)

/-- The sessions that are alive after a request. -/
def State.sessionsAfter (s : State) : Registry.Request → List (Handle × Handle)
  | .createSession created =>
    if created.1.succeeded then (created.2, s.savedXrInstance) :: s.sessions else s.sessions
  | .destroySession ended session =>
    if ended && (s.registry.sessionStates.lookup session).isSome &&
        !(Registry.Request.perform s.registry (.destroySession ended session)).undefined then
      s.sessions.filter fun pair => pair.1 ≠ session
    else s.sessions
  | _ => s.sessions

/-- A request to the Vulkan module. -/
def handleRequest (request : Registry.Request) (s : State) : State :=
  { s with
    registry := request.perform s.registry
    sessions := s.sessionsAfter request
    misused := s.misused || (callsVulkan s.registry request && !s.usable) }

/-- `handle_release_swapchain_image` waits for the fence of an image if it finds both images. -/
def handleRelease (swapchain : Handle) (srcIndex destIndex : Nat) (s : State) : State :=
  let reaches := (s.registry.swapchainStates.lookup swapchain).any fun state =>
    decide (srcIndex < state.sharedImages.length) && decide (destIndex < state.runtimeImages.length)
  { s with misused := s.misused || (reaches && !s.usable) }

/-- What the server is asked for. -/
inductive Event where
  /-- `xrCreateInstance`, with what the runtime answers. -/
  | createInstance (created : XrResult × Handle) (answers : SetupAnswers)
  /-- `xrDestroyInstance`. -/
  | destroyInstance (handle : Handle)
  /-- A session or a swapchain is created or destroyed. -/
  | request (request : Registry.Request)
  /-- An image is released. -/
  | release (swapchain : Handle) (srcIndex destIndex : Nat)

/-- The state after an event. -/
def State.after (s : State) : Event → State
  | .createInstance created answers => handleCreateInstance created answers s
  | .destroyInstance handle => handleDestroyInstance handle s
  | .request request => handleRequest request s
  | .release swapchain srcIndex destIndex => handleRelease swapchain srcIndex destIndex s

/-- What the runtime does not do: it gives no two instances or swapchains that are alive the same
handle, and creates nothing for an instance or a session that is not. -/
def Lawful (s : State) : Event → Prop
  | .createInstance created _ => created.1.succeeded → created.2 ∉ s.instances
  | .request (.createSwapchain decodes answers session createInfo) =>
    Registry.Lawful s.registry (.createSwapchain decodes answers session createInfo) ∧
      (answers.created.1.succeeded → ∃ pair ∈ s.sessions, pair.1 = session)
  | .request (.createSession created) => created.1.succeeded → s.savedXrInstance ∈ s.instances
  | _ => True

/-- An instance is created when there is none, and destroyed when its device has been set up and no
swapchain is registered; a session is created on a device that has been set up, and destroyed when
it lists no swapchain. -/
def Orderly (s : State) : Event → Prop
  | .createInstance created _ => created.1.succeeded → s.instances = []
  | .destroyInstance handle =>
    handle = s.savedInstance → s.usable ∧ s.registry.swapchainStates.entries = []
  | .request (.createSession created) => created.1.succeeded → s.usable
  | .request (.destroySession _ session) =>
    ∀ state ∈ s.registry.sessionStates.lookup session, state.swapchains = []
  | _ => True

/-- Whether the runtime may answer so can be computed. -/
instance (s : State) : ∀ event, Decidable (Lawful s event)
  | .createInstance .. => inferInstanceAs (Decidable (_ → _))
  | .request (.createSwapchain ..) => inferInstanceAs (Decidable (_ ∧ (_ → _)))
  | .request (.createSession _) => inferInstanceAs (Decidable (_ → _))
  | .destroyInstance _ | .request (.destroySwapchain ..) | .request (.destroySession ..)
  | .release .. => inferInstanceAs (Decidable True)

/-- Whether an event is in order can be computed. -/
instance (s : State) : ∀ event, Decidable (Orderly s event)
  | .createInstance .. => inferInstanceAs (Decidable (_ → _))
  | .destroyInstance _ => inferInstanceAs (Decidable (_ → _ ∧ _))
  | .request (.createSession _) => inferInstanceAs (Decidable (_ → _))
  | .request (.destroySession ..) => inferInstanceAs (Decidable (∀ state ∈ _, _))
  | .request (.createSwapchain ..) | .request (.destroySwapchain ..) | .release .. =>
    inferInstanceAs (Decidable True)

/-- The server from its start on, with what `saved_instance` happens to hold. -/
def system (saved : Handle) : System State Event where
  init := { savedInstance := saved }
  step s event := if Lawful s event then some (s.after event) else none

/-- The device that is there serves everything that is registered. -/
structure State.Served (s : State) : Prop where
  /-- What is registered is alive in the runtime. -/
  sound : s.registry.Sound
  /-- Its objects are live. -/
  intact : s.registry.Intact
  /-- No loop has gone on from an element that is gone. -/
  defined : s.registry.undefined = false
  /-- No instance is alive but the one that the server knows. -/
  only : ∀ handle ∈ s.instances, handle = s.savedInstance
  /-- The device is that of an instance that is alive. -/
  device : ∀ device ∈ s.device,
    device.owner ∈ s.instances ∧ device.born ≤ s.registry.platform.ledger.next
  /-- A session is of an instance that is alive, and can be used. -/
  sessions : ∀ session ∈ s.sessions, session.2 ∈ s.instances ∧ s.usable
  /-- A swapchain is of a session that is alive. -/
  alive : ∀ pair ∈ s.registry.alive, ∃ session ∈ s.sessions, session.1 = pair.2
  /-- What is registered was created on the device. -/
  owned : ∀ object ∈ s.registry.owned, ∃ device ∈ s.device, device.born ≤ object.2
  /-- No Vulkan function has been misused. -/
  proper : s.misused = false

/-- What the set-up for an instance may change: apart from the functions, the queue family and the
command pool it may only put a new device in the place of the old one. -/
structure SetUp (handle : Handle) (s s' : State) : Prop where
  /-- The module knows the instance. -/
  known : s'.savedXrInstance = handle
  /-- The sessions and swapchains stay. -/
  registry : ∃ pool, s'.registry = { s.registry with savedVkCommandPool := pool }
  /-- The server still knows the same instance. -/
  saved : s'.savedInstance = s.savedInstance
  /-- The same instances are alive. -/
  instances : s'.instances = s.instances
  /-- The same sessions are alive. -/
  sessions : s'.sessions = s.sessions
  /-- Nothing is misused. -/
  misused : s'.misused = s.misused
  /-- The device is the old one or a new one. -/
  device : ∀ device ∈ s'.device,
    (∃ old ∈ s.device, device.owner = old.owner ∧ device.born = old.born) ∨
      device.owner = handle ∧ device.born = s.registry.platform.ledger.next

/-- However far it gets, the set-up changes no more. -/
theorem onInstance_setUp (answers : SetupAnswers) (handle : Handle) (s : State) :
    SetUp handle s (onInstance answers handle s).2 := by
  have passes (succeeds : Bool) : Meets (SetUp handle s) (require succeeds)
      (fun _ => SetUp handle s) (SetUp handle s) := by
    cases succeeds with
    | false => exact fun _ setUp => setUp
    | true => exact fun _ setUp => setUp
  have reads {α : Type} (value : Option α) : Meets (SetUp handle s) (Program.ofOption value)
      (fun _ => SetUp handle s) (SetUp handle s) := by
    cases value with
    | none => exact fun _ setUp => setUp
    | some value => exact fun _ setUp => setUp
  have changes {change : State → State}
      (kept : ∀ s', SetUp handle s s' → SetUp handle s (change s')) :
      Meets (SetUp handle s) (Program.modify change) (fun _ => SetUp handle s)
        (SetUp handle s) :=
    fun s' setUp => kept s' setUp
  have starts : Meets (fun s' => s' = s)
      (Program.modify fun s => { s with savedXrInstance := handle }) (fun _ => SetUp handle s)
      (SetUp handle s) := by
    rintro s' rfl
    exact ⟨rfl, ⟨_, rfl⟩, rfl, rfl, rfl, rfl, fun device there => .inl ⟨device, there, rfl, rfl⟩⟩
  have whole : Meets (fun s' => s' = s) (onInstance answers handle) (fun _ => SetUp handle s)
      (SetUp handle s) := by
    refine starts.bind fun _ => ?_
    refine (passes _).bind fun _ => (passes _).bind fun _ => (passes _).bind fun _ => ?_
    refine (passes _).bind fun _ => (passes _).bind fun _ => ?_
    refine (changes ?_).bind fun _ => ?_
    · exact fun s' setUp => { setUp with }
    refine (passes _).bind fun _ => (reads _).bind fun _ => ?_
    refine (changes ?_).bind fun _ => ?_
    · exact fun s' setUp => { setUp with }
    refine (passes _).bind fun _ => (passes _).bind fun _ => ?_
    refine (changes ?_).bind fun _ => ?_
    · intro s' setUp
      obtain ⟨pool, registry⟩ := setUp.registry
      refine { setUp with device := fun device there => .inr ?_ }
      obtain rfl := Option.some.inj there
      dsimp only
      rw [registry]
      exact ⟨setUp.known, rfl⟩
    refine (passes _).bind fun _ => changes ?_
    intro s' setUp
    obtain ⟨pool, registry⟩ := setUp.registry
    refine { setUp with registry := ⟨answers.commandPool.2, ?_⟩, device := ?_ }
    · dsimp only
      rw [registry]
    · intro device there
      obtain ⟨before, found, same⟩ := Option.map_eq_some_iff.mp there
      rw [← same]
      exact setUp.device before found
  exact whole.always rfl

section Steps

variable {s : State}

/-- What can be used is there. -/
theorem State.device_of_usable (usable : s.usable = true) : ∃ device, s.device = some device := by
  rw [State.usable, Bool.and_eq_true] at usable
  obtain ⟨device, there, _⟩ := Option.any_eq_true _ _ |>.mp usable.2
  exact ⟨device, there⟩

namespace State.Served

/-- What is registered can be used. -/
theorem registered (served : s.Served) {swapchain : Handle} {state : Registry.Swapchain}
    (found : s.registry.swapchainStates.lookup swapchain = some state) : s.usable = true := by
  have living := served.sound.living swapchain state found
  obtain ⟨session, there, _⟩ := served.alive _ living
  exact (served.sessions session there).2

/-- Without an instance there is nothing. -/
theorem nothing (served : s.Served) (none : s.instances = []) :
    s.device = Option.none ∧ s.sessions = [] ∧ s.registry.alive = [] ∧ s.registry.owned = [] := by
  have device : s.device = Option.none := by
    apply Option.eq_none_iff_forall_not_mem.mpr
    intro device there
    have owner := (served.device device there).1
    rw [none] at owner
    exact List.not_mem_nil owner
  have sessions : s.sessions = [] := by
    apply List.eq_nil_iff_forall_not_mem.mpr
    intro session there
    have owner := (served.sessions session there).1
    rw [none] at owner
    exact List.not_mem_nil owner
  have alive : s.registry.alive = [] := by
    apply List.eq_nil_iff_forall_not_mem.mpr
    intro pair there
    obtain ⟨session, known, _⟩ := served.alive pair there
    rw [sessions] at known
    exact List.not_mem_nil known
  have owned : s.registry.owned = [] := by
    apply List.eq_nil_iff_forall_not_mem.mpr
    intro object own
    obtain ⟨one, there, _⟩ := served.owned object own
    rw [device] at there
    exact Option.not_mem_none one there
  exact ⟨device, sessions, alive, owned⟩

/-- An instance is created. -/
theorem createInstance_iff (served : s.Served) {created : XrResult × Handle}
    {answers : SetupAnswers} (lawful : Lawful s (.createInstance created answers)) :
    (s.after (.createInstance created answers)).Served ↔
      Orderly s (.createInstance created answers) := by
  rw [State.after, handleCreateInstance, Orderly]
  cases succeeded : created.1.succeeded with
  | false =>
    rw [if_neg Bool.false_ne_true]
    exact iff_of_true served fun never => absurd never Bool.false_ne_true
  | true =>
    rw [if_pos rfl]
    have setUp := onInstance_setUp answers created.2
      { s with instances := created.2 :: s.instances, savedInstance := created.2 }
    generalize (onInstance answers created.2
      { s with instances := created.2 :: s.instances, savedInstance := created.2 }).2 = s' at setUp
    constructor
    · intro after _
      apply List.eq_nil_iff_forall_not_mem.mpr
      intro handle there
      have known : handle ∈ s'.instances := by
        rw [setUp.instances]
        exact List.mem_cons_of_mem _ there
      have same := after.only handle known
      rw [setUp.saved] at same
      rw [same] at there
      exact lawful succeeded there
    · intro orderly
      have none := orderly rfl
      obtain ⟨device, sessions, alive, owned⟩ := served.nothing none
      obtain ⟨pool, registry⟩ := setUp.registry
      have instances : s'.instances = [created.2] := by
        rw [setUp.instances, none]
      refine ⟨?_, ?_, ?_, ?_, ?_, ?_, ?_, ?_, ?_⟩
      · rw [registry]
        exact ⟨served.sound.consistent, served.sound.living⟩
      · rw [registry]
        exact served.intact
      · rw [registry]
        exact served.defined
      · intro handle there
        rw [instances] at there
        rw [setUp.saved]
        exact List.mem_singleton.mp there
      · intro new there
        rw [instances, registry]
        rcases setUp.device new there with ⟨old, before, _⟩ | ⟨owner, born⟩
        · rw [device] at before
          exact absurd before (Option.not_mem_none old)
        · exact ⟨List.mem_singleton.mpr owner, Nat.le_of_eq born⟩
      · intro session there
        rw [setUp.sessions] at there
        rw [sessions] at there
        exact absurd there List.not_mem_nil
      · intro pair there
        rw [registry] at there
        rw [alive] at there
        exact absurd there List.not_mem_nil
      · intro object own
        rw [registry] at own
        have before : object ∈ s.registry.owned := own
        rw [owned] at before
        exact absurd before List.not_mem_nil
      · rw [setUp.misused]
        exact served.proper

/-- An instance is destroyed. -/
theorem destroyInstance_iff (served : s.Served) (handle : Handle) :
    (s.after (.destroyInstance handle)).Served ↔ Orderly s (.destroyInstance handle) := by
  rw [State.after, handleDestroyInstance, Orderly]
  by_cases same : handle = s.savedInstance
  case neg =>
    rw [if_neg same]
    exact iff_of_true served fun equal => absurd equal same
  rw [if_pos same]
  have instances : s.instances.filter (· ≠ handle) = [] := by
    apply List.filter_eq_nil_iff.mpr
    intro other there
    have equal := (served.only other there).trans same.symm
    rw [equal]
    simp
  have sessions : (s.sessions.filter fun session => session.2 ≠ handle) = [] := by
    apply List.filter_eq_nil_iff.mpr
    intro session there
    have equal := (served.only _ (served.sessions session there).1).trans same.symm
    rw [equal]
    simp
  constructor
  · intro after _
    constructor
    · have proper : (s.misused || !s.usable) = false := after.proper
      rw [Bool.or_eq_false_iff, Bool.not_eq_false'] at proper
      exact proper.2
    · by_contra some
      obtain ⟨⟨swapchain, state⟩, rest, entries⟩ := List.exists_cons_of_ne_nil some
      have found : s.registry.swapchainStates.lookup swapchain = Option.some state := by
        apply AList.mem_lookup_iff.mpr
        rw [entries]
        exact List.mem_cons_self
      obtain ⟨session, there, _⟩ := after.alive _ (after.sound.living swapchain state found)
      have none : session ∈ s.sessions.filter fun session => session.2 ≠ handle := there
      rw [sessions] at none
      exact List.not_mem_nil none
  · intro orderly
    obtain ⟨usable, empty⟩ := orderly same
    have unregistered : ∀ swapchain, s.registry.swapchainStates.lookup swapchain = none := by
      intro swapchain
      apply AList.lookup_eq_none.mpr
      rw [AList.mem_keys, AList.keys, empty]
      exact List.not_mem_nil
    have owned : s.registry.owned = [] := by
      rw [Registry.State.owned, XrTransport.Registry.owned, empty]
      rfl
    obtain ⟨device, there⟩ := State.device_of_usable usable
    have owner := (served.only _ (served.device device there).1).trans same.symm
    refine ⟨⟨served.sound.consistent, fun swapchain state found => ?_⟩,
      Registry.destroyCommandPool_intact served.intact owned s.registry.savedVkCommandPool,
      served.defined, ?_, ?_, ?_, ?_, ?_, ?_⟩
    · exact absurd ((unregistered swapchain).symm.trans found) (Option.some_ne_none _).symm
    · intro other there
      have none : other ∈ s.instances.filter (· ≠ handle) := there
      rw [instances] at none
      exact absurd none List.not_mem_nil
    · intro other left
      have kept : ((s.device.map fun device => { device with pooled := false }).filter
        fun device => device.owner ≠ handle) = some other := left
      rw [there] at kept
      simp only [Option.map_some, Option.filter_some, owner, ne_eq, not_true_eq_false, decide_false,
        Bool.false_eq_true, if_false] at kept
      exact absurd kept (Option.some_ne_none _).symm
    · intro session there
      have none : session ∈ s.sessions.filter fun session => session.2 ≠ handle := there
      rw [sessions] at none
      exact absurd none List.not_mem_nil
    · intro pair there
      have chosen := (List.mem_filter.mp there).2
      have none : (s.sessions.filter fun session => session.2 ≠ handle).any
        (fun session => session.1 == pair.2) = true := chosen
      rw [sessions] at none
      exact absurd none Bool.false_ne_true
    · intro object own
      have before : object ∈ s.registry.owned := own
      rw [owned] at before
      exact absurd before List.not_mem_nil
    · have proper : (s.misused || !s.usable) = false := by
        rw [served.proper, usable]
        rfl
      exact proper

/-- An image is released. -/
theorem release (served : s.Served) (swapchain : Handle) (srcIndex destIndex : Nat) :
    (s.after (.release swapchain srcIndex destIndex)).Served := by
  refine { served with proper := ?_ }
  show (s.misused || _ && !s.usable) = false
  rw [served.proper, Bool.false_or]
  cases found : s.registry.swapchainStates.lookup swapchain with
  | none => rfl
  | some state =>
    rw [served.registered found, Bool.not_true, Bool.and_false]

/-- What a request to the module keeps, if the sessions and swapchains that are alive then can be
used. -/
theorem request (served : s.Served) {request : Registry.Request}
    (lawful : Registry.Lawful s.registry request)
    (defined : (request.perform s.registry).undefined = false)
    (sessions : ∀ session ∈ s.sessionsAfter request,
      session.2 ∈ s.instances ∧ s.usable = true)
    (alive : ∀ pair ∈ (request.perform s.registry).alive,
      ∃ session ∈ s.sessionsAfter request, session.1 = pair.2)
    (proper : callsVulkan s.registry request = true → s.usable = true) :
    (s.after (.request request)).Served := by
  have sound := Registry.perform_sound served.sound request lawful
  have grown := Registry.perform_grown served.sound served.intact request lawful
  refine ⟨sound, grown.intact, defined, served.only, fun device there => ?_, sessions, alive,
    fun object own => ?_, ?_⟩
  · have before := served.device device there
    exact ⟨before.1, Nat.le_trans before.2 grown.next⟩
  · rcases grown.owned object own with old | new
    · exact served.owned object old
    · obtain ⟨swapchain, state, found, _⟩ := XrTransport.Registry.mem_owned.mp own
      obtain ⟨session, there, _⟩ := alive _ (sound.living swapchain state found)
      obtain ⟨device, present⟩ := State.device_of_usable (sessions session there).2
      have born := (served.device device present).2
      exact ⟨device, present, Nat.le_trans born new⟩
  · show (s.misused || callsVulkan s.registry request && !s.usable) = false
    rw [served.proper, Bool.false_or]
    cases calls : callsVulkan s.registry request with
    | false => rfl
    | true =>
      rw [proper calls]
      rfl

/-- A swapchain is created. -/
theorem createSwapchain (served : s.Served) {decodes : Bool} {answers : Registry.CreateAnswers}
    {session : Handle} {createInfo : SwapchainCreateInfo}
    (lawful : Lawful s (.request (.createSwapchain decodes answers session createInfo))) :
    (s.after (.request (.createSwapchain decodes answers session createInfo))).Served := by
  obtain ⟨undefined, alive⟩ := @Registry.handleCreateSwapchain_alive s.registry decodes answers
    session createInfo
  refine served.request lawful.1 (undefined.trans served.defined) served.sessions
    (fun pair there => ?_) fun calls => ?_
  · rcases alive pair there with old | ⟨succeeded, same⟩
    · exact served.alive pair old
    · obtain ⟨one, known, equal⟩ := lawful.2 succeeded
      exact ⟨one, known, equal.trans same.symm⟩
  · simp only [callsVulkan, Bool.and_eq_true, beq_iff_eq] at calls
    have succeeded : answers.created.1.succeeded = true := by
      rw [calls.1.1.1.2]
      rfl
    obtain ⟨one, known, _⟩ := lawful.2 succeeded
    exact (served.sessions one known).2

/-- A swapchain is destroyed. -/
theorem destroySwapchain (served : s.Served) (decodes ended : Bool) (swapchain : Handle) :
    (s.after (.request (.destroySwapchain decodes ended swapchain))).Served := by
  have kept : (Registry.Request.perform s.registry
        (.destroySwapchain decodes ended swapchain)).undefined = false ∧
      ∀ pair ∈ (Registry.Request.perform s.registry
        (.destroySwapchain decodes ended swapchain)).alive, pair ∈ s.registry.alive := by
    cases decodes with
    | false => exact ⟨served.defined, fun pair there => there⟩
    | true =>
      obtain ⟨undefined, alive⟩ := @Registry.destroySwapchain_alive s.registry ended swapchain
      exact ⟨undefined.trans served.defined, alive⟩
  refine served.request trivial kept.1 served.sessions
    (fun pair there => served.alive pair (kept.2 pair there)) fun calls => ?_
  simp only [callsVulkan, finds, Bool.and_eq_true] at calls
  obtain ⟨state, found, _⟩ := Option.any_eq_true _ _ |>.mp calls.2
  exact served.registered found

/-- A session is created. -/
theorem createSession_iff (served : s.Served) {created : XrResult × Handle}
    (lawful : Lawful s (.request (.createSession created))) :
    (s.after (.request (.createSession created))).Served ↔
      Orderly s (.request (.createSession created)) := by
  have same : (Registry.Request.perform s.registry (.createSession created)).undefined =
        s.registry.undefined ∧
      (Registry.Request.perform s.registry (.createSession created)).alive = s.registry.alive := by
    cases succeeded : created.1.succeeded with
    | false =>
      simp [Registry.Request.perform, Registry.handleCreateSession, succeeded, Program.throw]
    | true =>
      simp [Registry.Request.perform, Registry.handleCreateSession, succeeded, Program.bind_apply,
        Program.andThen, Program.modify]
  constructor
  · intro after succeeded
    have there : (created.2, s.savedXrInstance) ∈ s.sessionsAfter (.createSession created) := by
      rw [State.sessionsAfter, if_pos succeeded]
      exact List.mem_cons_self
    exact (after.sessions _ there).2
  · intro orderly
    refine served.request trivial (same.1.trans served.defined) (fun session there => ?_)
      (fun pair there => ?_) fun calls => absurd calls Bool.false_ne_true
    · rw [State.sessionsAfter] at there
      split at there
      next succeeded =>
        rcases List.mem_cons.mp there with rfl | old
        · exact ⟨lawful succeeded, orderly succeeded⟩
        · exact served.sessions session old
      next => exact served.sessions session there
    · rw [same.2] at there
      obtain ⟨session, known, equal⟩ := served.alive pair there
      refine ⟨session, ?_, equal⟩
      rw [State.sessionsAfter]
      split
      · exact List.mem_cons_of_mem _ known
      · exact known

/-- A session is destroyed. -/
theorem destroySession_iff (served : s.Served) (ended : Bool) (session : Handle) :
    (s.after (.request (.destroySession ended session))).Served ↔
      Orderly s (.request (.destroySession ended session)) := by
  constructor
  · exact fun after => Registry.destroySession_undefined served.sound after.defined
  · intro orderly
    have performed := Registry.destroySession_childless served.sound orderly ended
    have defined : (Registry.Request.perform s.registry
        (.destroySession ended session)).undefined = false := by
      rw [performed]
      split
      · rw [Registry.State.runtimeDestroys]
        split
        · exact served.defined
        · exact served.defined
      · exact served.defined
    refine served.request trivial defined (fun one there => ?_) (fun pair there => ?_)
      fun calls => ?_
    · rw [State.sessionsAfter] at there
      split at there
      · exact served.sessions one (List.mem_of_mem_filter there)
      · exact served.sessions one there
    · rw [performed] at there
      rw [State.sessionsAfter, defined]
      cases found : s.registry.sessionStates.lookup session with
      | none =>
        rw [found] at there
        obtain ⟨one, known, equal⟩ := served.alive pair there
        refine ⟨one, ?_, equal⟩
        simpa using known
      | some state =>
        rw [found] at there
        have runtime : pair ∈ (s.registry.runtimeDestroys ended session).alive := there
        rw [Registry.State.runtimeDestroys, served.defined] at runtime
        cases ended with
        | false =>
          obtain ⟨one, known, equal⟩ := served.alive pair runtime
          exact ⟨one, known, equal⟩
        | true =>
          obtain ⟨before, other⟩ := List.mem_filter.mp runtime
          obtain ⟨one, known, equal⟩ := served.alive pair before
          refine ⟨one, ?_, equal⟩
          have chosen : one ∈ s.sessions.filter fun pair => pair.1 ≠ session := by
            rw [List.mem_filter, equal]
            exact ⟨known, other⟩
          simpa using chosen
    · simp only [callsVulkan, Registry.State.swapchainsOf] at calls
      cases found : s.registry.sessionStates.lookup session with
      | none =>
        rw [found] at calls
        exact absurd calls Bool.false_ne_true
      | some state =>
        rw [found, Option.elim_some, orderly state found] at calls
        exact absurd calls Bool.false_ne_true

/-- An event keeps the state served exactly if it is in order. -/
theorem after_iff (served : s.Served) {event : Event} (lawful : Lawful s event) :
    (s.after event).Served ↔ Orderly s event := by
  cases event with
  | createInstance created answers => exact served.createInstance_iff lawful
  | destroyInstance handle => exact served.destroyInstance_iff handle
  | release swapchain srcIndex destIndex =>
    exact iff_of_true (served.release swapchain srcIndex destIndex) trivial
  | request request =>
    cases request with
    | createSwapchain decodes answers session createInfo =>
      exact iff_of_true (served.createSwapchain lawful) trivial
    | destroySwapchain decodes ended swapchain =>
      exact iff_of_true (served.destroySwapchain decodes ended swapchain) trivial
    | createSession created => exact served.createSession_iff lawful
    | destroySession ended session => exact served.destroySession_iff ended session

end State.Served

/-- When the server starts nothing is registered. -/
theorem served_start (saved : Handle) : State.Served { savedInstance := saved } := by
  have nowhere {α : Type} (key : Handle) : (∅ : XrTransport.Registry Handle α).lookup key = none :=
    AList.lookup_empty key
  refine ⟨⟨⟨fun child value found => ?_, fun key parent found => ?_⟩,
    fun swapchain state found => ?_⟩, ⟨[], ?_⟩, rfl, ?_, ?_, ?_, ?_, ?_, rfl⟩
  · exact absurd ((nowhere child).symm.trans found) (Option.some_ne_none _).symm
  · exact absurd ((nowhere key).symm.trans found) (Option.some_ne_none _).symm
  · exact absurd ((nowhere swapchain).symm.trans found) (Option.some_ne_none _).symm
  · exact Ledger.settled_iff.mpr (.refl _)
  · exact fun handle there => absurd there List.not_mem_nil
  · exact fun device there => absurd there (Option.not_mem_none device)
  · exact fun session there => absurd there List.not_mem_nil
  · exact fun pair there => absurd there List.not_mem_nil
  · exact fun object own => absurd own List.not_mem_nil

end Steps

/-- A set-up without a failure; the second queue family is taken. -/
def completeSetup (pool : Handle) : SetupAnswers where
  loads := true
  system := .success
  requirements := .success
  vulkanInstance := (.success, .success)
  physicalDevice := .success
  families := [⟨1, graphicsBit⟩, ⟨2, transferBit⟩, ⟨0, transferBit⟩]
  vulkanDevice := (.success, .success)
  commandPool := (.success, pool)

/-- The answers to the creation of a swapchain of one image. -/
def oneImage : Registry.CreateAnswers where
  vk := fun _ => .success
  created := (.success, 8)
  counted := .success
  enumerated := (.success, [20])
  memoryTypes := [Registry.deviceLocalBit]
  memoryTypeBits := fun _ => 1

/-- An instance whose device serves a swapchain until it is destroyed. -/
def oneInstance (pool : Handle) : List Event :=
  [.createInstance (.success, 3) (completeSetup pool), .request (.createSession (.success, 7)),
    .request (.createSwapchain true oneImage 7 ⟨0, colorAttachmentBit, 64, 64⟩), .release 8 0 0,
    .request (.destroySwapchain true true 8), .request (.destroySession true 7),
    .destroyInstance 3]

end Instances

end XrTransport.Vulkan.Server
