import XrTransport.Vulkan.Client.SwapchainObjects
import XrTransport.Vulkan.Server.SwapchainObjects

/-!
# The lifetimes of the Vulkan objects, on both sides

Between two calls the live objects of a side are those of its registered swapchains, unless a
creation has failed halfway, the server has destroyed a swapchain with images, or a command pool has
been destroyed with command buffers in use.
-/
namespace XrTransport.Vulkan

/-- In every run of the client, and in every run of the server, the live objects are exactly those
of the registered swapchains and the others have been destroyed once, throughout the run, exactly if
each of its steps meets the condition of that side. -/
theorem vulkan_objects_settled_iff {clientStart world : Client.Registry.World}
    {calls : List (Client.Registry.Call × List (Client.Handle × Client.Handle))}
    {serverStart state : Server.Registry.State} {requests : List Server.Registry.Request}
    (started : Client.Registry.Started clientStart) (settled : clientStart.state.Settled)
    (ran : (Client.Registry.system clientStart).run clientStart calls = some world)
    (sound : serverStart.Sound) (settled' : serverStart.Settled)
    (ran' : (Server.Registry.system serverStart).run serverStart requests = some state) :
    (((Client.Registry.system clientStart).Along (fun world _ => world.state.Settled)
        clientStart calls ∧ world.state.Settled) ↔
      (Client.Registry.system clientStart).Along
        (fun world label => Client.Registry.Spares world.state label.1) clientStart calls) ∧
    (((Server.Registry.system serverStart).Along (fun s _ => s.Settled) serverStart requests ∧
        state.Settled) ↔
      (Server.Registry.system serverStart).Along Server.Registry.Spares serverStart requests) :=
  ⟨Client.Registry.objects_settled_iff started settled ran,
    Server.Registry.objects_settled_iff sound settled' ran'⟩

/-- What Vulkan and the runtime answer when all goes well, for a swapchain of one image. -/
def oneImageAnswers : Server.Registry.CreateAnswers where
  vk := fun _ => .success
  created := (.success, 8)
  counted := .success
  enumerated := (.success, [20])
  memoryTypes := [Server.Registry.deviceLocalBit]
  memoryTypeBits := fun _ => 1

/-- A color swapchain. -/
def colorSwapchain : SwapchainCreateInfo := ⟨0, colorAttachmentBit, 64, 64⟩

/-- The server creates a session and a swapchain of one image. -/
def oneImageRequests : List Server.Registry.Request :=
  [.createSession (.success, 7), .createSwapchain true oneImageAnswers 7 colorSwapchain]

/-- A server that has just started. -/
theorem fresh_sound : Server.Registry.State.Sound {} := by
  refine ⟨⟨fun swapchain state found => ?_, fun session state found => ?_⟩,
    fun swapchain state found => ?_⟩
  · cases found
  · cases found
  · cases found

/-- It has no objects. -/
theorem fresh_settled : Server.Registry.State.Settled {} :=
  ⟨Ledger.settled_iff.mpr (.refl _), rfl⟩

/-- The client creates and destroys a swapchain, the server creates one. -/
theorem oneImage_settled :
    (∃ world, (Client.Registry.system Client.Registry.started).run Client.Registry.started
        Client.Registry.oneLife = some world ∧ world.state.Settled) ∧
      ∃ state, (Server.Registry.system {}).run {} oneImageRequests = some state ∧
        state.Settled := by
  have both := @vulkan_objects_settled_iff Client.Registry.started _ Client.Registry.oneLife
    {} _ oneImageRequests ⟨rfl, rfl⟩ (Ledger.settled_iff.mpr (.refl _)) rfl fresh_sound
    fresh_settled rfl
  refine ⟨⟨_, rfl, ?_⟩, ⟨_, rfl, ?_⟩⟩
  · refine (both.1.mpr ?_).2
    exact ⟨trivial, fun _ _ _ _ _ => .inl fun _ _ => rfl, trivial, trivial⟩
  · refine (both.2.mpr ?_).2
    decide

/-- A swapchain of one image is created and destroyed on the server: the fence of its image is never
destroyed. -/
theorem destroyed_swapchain_unsettled :
    ¬∀ (start state : Server.Registry.State) (requests : List Server.Registry.Request),
      start.Sound → start.Settled →
      (Server.Registry.system start).run start requests = some state →
      (Server.Registry.system start).Along (fun s _ => s.Settled) start requests ∧
        state.Settled := by
  intro always
  have settled := always {} _ (oneImageRequests ++ [.destroySwapchain true true 8]) fresh_sound
    fresh_settled rfl
  have spared := (Server.Registry.objects_settled_iff fresh_sound fresh_settled rfl).mp settled
  exact absurd spared (by decide +kernel)

end XrTransport.Vulkan
