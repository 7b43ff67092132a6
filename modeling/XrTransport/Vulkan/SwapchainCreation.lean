import XrTransport.Vulkan.Client.SwapchainObjects
import XrTransport.Vulkan.Server.SwapchainObjects

/-!
# Swapchain creation on both sides

A call of `xrCreateSwapchain`, with the server's handler and the socket of the handle exchange in
between. Both sides validate the create info, the client only after the server has registered the
swapchain and written its handles.
-/
namespace XrTransport.Vulkan.SwapchainCreation

open Vulkan.Client (Handle)
open Program Platform

/-- Both sides between two calls. -/
structure World where
  /-- The client. What is in the socket is in its part of the handle exchange. -/
  client : Client.Registry.State
  /-- The server and the runtime. -/
  server : Server.Registry.State

/-- A call of `xrCreateSwapchain`, with everything that is not determined by its arguments. -/
structure Creation where
  /-- The client's Vulkan, by the number of the call. -/
  vk : Nat → VkResult
  /-- What the function below this layer returns, if there is one. -/
  next : Option XrResult
  /-- Whether the create info can be serialized. What has been written is sent in any case. -/
  serializes : Bool
  /-- What the runtime and the server's Vulkan answer. -/
  answers : Server.Registry.CreateAnswers
  /-- `session`. -/
  session : Handle
  /-- `createInfo`. -/
  createInfo : SwapchainCreateInfo

/-- The client after handles have been written to the socket. -/
def receive (client : Client.Registry.State) (written : List Nat) : Client.Registry.State :=
  { client with platform :=
      { client.platform with socket := client.platform.socket ++ written } }

/-- The server after its handles have been written to the socket. -/
def handOver (server : Server.Registry.State) : Server.Registry.State :=
  { server with platform := { server.platform with socket := [] } }

/-- The server's handler of the call. -/
def handled (world : World) (call : Creation) :
    Option CreateSwapchainReturn × Server.Registry.State :=
  Server.Registry.handleCreateSwapchain call.serializes call.answers call.session call.createInfo
    world.server

/-- The client's function, for what arrives from the server. -/
def performed (client : Client.Registry.State) (call : Creation)
    (returned : Option CreateSwapchainReturn) : XrResult × Client.Registry.State :=
  Client.Registry.xrCreateSwapchain call.vk call.next returned call.session call.createInfo client

/-- A call with its result. It does not return when the server's handler throws: the client waits
for the reply. -/
def createSwapchain (world : World) (call : Creation) : Option (XrResult × World) :=
  match world.client.sessionStates.lookup call.session with
  | none => some ((performed world.client call none).1, world)
  | some _ =>
    let server := (handled world call).2
    if call.serializes then
      match (handled world call).1 with
      | none => none
      | some message =>
        let client := receive world.client server.platform.socket
        some ((performed client call (some message)).1,
          { client := (performed client call (some message)).2, server := handOver server })
    else
      some ((performed world.client call none).1,
        { client := (performed world.client call none).2, server })

/-- Runs of calls that return. The runtime does not use the handle of a swapchain that is alive for
a new one. -/
def system (start : World) : System World Creation where
  init := start
  step world call :=
    if Server.Registry.Lawful world.server
        (.createSwapchain call.serializes call.answers call.session call.createInfo) then
      (createSwapchain world call).map Prod.snd
    else none

/-- The handles that an image is exported by. -/
def exported (image : Server.Registry.OwnedImage) : ImageHandles where
  memoryHandle := image.sharedMemory
  renderingDoneHandle := image.renderingDone
  copyingDoneHandle := image.copyingDone

/-- No handle is left in the socket, the same swapchains are registered on both sides and alive in
the runtime, and the images of each on the client are built, in order, from the handles of its
images on the server. -/
structure AllOrNothing (world : World) : Prop where
  /-- The socket as the client sees it. -/
  read : world.client.platform.socket = []
  /-- And as the server does. -/
  written : world.server.platform.socket = []
  /-- The client's swapchains are the server's. -/
  registered : ∀ swapchain, world.client.swapchainStates.lookup swapchain = none ↔
    world.server.swapchainStates.lookup swapchain = none
  /-- The server's are the runtime's. -/
  alive : ∀ swapchain, world.server.swapchainStates.lookup swapchain = none ↔
    ∀ pair ∈ world.server.alive, pair.1 ≠ swapchain
  /-- The images. -/
  matching : ∀ swapchain client server,
    world.client.swapchainStates.lookup swapchain = some client →
    world.server.swapchainStates.lookup swapchain = some server →
    client.images.map Client.Registry.OwnedImage.handles = server.sharedImages.map exported

/-- The condition on a call: the runtime refuses the creation with an error, or it succeeds, the
usage flags name an image type for the client and all Vulkan calls of the client succeed. -/
def Completes (world : World) (call : Creation) : Prop :=
  world.client.sessionStates.lookup call.session ≠ none → call.serializes = true →
    call.answers.created.1.succeeded = false ∨
      (call.answers.created.1 = .success ∧
        Client.Registry.imageTypeOf call.createInfo.usageFlags ≠ none ∧
        ∀ number < 14 * call.answers.enumerated.2.length,
          call.vk (world.client.platform.issued + number) = .success)

instance (world : World) (call : Creation) : Decidable (Completes world call) :=
  inferInstanceAs (Decidable (_ → _ → _ ∨ _ ∧ _ ∧ _))

section Server

/-- The loop that creates the images writes no handle. -/
theorem createImages_socket (answers : Server.Registry.CreateAnswers) (commandPool flags : Nat) :
    Keeps Platform.socket (Server.Registry.createImages answers commandPool flags) := by
  refine Keeps.collect fun index => ?_
  refine create_socket.bind fun image => ?_
  have search (found : Option Nat) :
      Keeps Platform.socket (ofOption found : Program Platform Nat) := by
    cases found with
    | none => exact Keeps.throw
    | some memoryType => exact fun _ => rfl
  refine (search _).bind fun _ => create_socket.bind fun memory => require_socket.bind fun _ => ?_
  refine create_socket.bind fun renderingDone => create_socket.bind fun copyingDone => ?_
  exact allocateCommandBuffer_socket.bind fun buffer => create_socket.bind fun fence => Keeps.pure

/-- It creates as many images as the runtime has. -/
theorem createImages_length {answers : Server.Registry.CreateAnswers} {commandPool flags : Nat}
    {p p' : Platform} {images : List Server.Registry.OwnedImage}
    (made : Server.Registry.createImages answers commandPool flags p = (some images, p')) :
    images.length = answers.enumerated.2.length := by
  have counted : images.length = (List.range answers.enumerated.2.length).length :=
    Program.collect_length made
  rw [counted, List.length_range]

/-- What is written for the images. -/
theorem writeImages_socket (vk : Nat → VkResult) (images : List Server.Registry.OwnedImage)
    (written : List Nat) :
    Meets (fun p => p.socket = written) (Server.Registry.writeImages vk images)
      (fun _ p => p.socket = written ++ (images.map exported).flatMap inOrder)
      (fun _ => True) := by
  induction images generalizing written with
  | nil =>
    refine Meets.pure fun p before => ?_
    simpa using before
  | cons image rest ih =>
    have exports : Meets (fun p => p.socket = written)
        (Server.Registry.exportImageHandles vk image)
        (fun handles p => handles = exported image ∧ p.socket = written) (fun _ => True) := by
      have one := (@require_socket vk).meets fun socket => socket = written
      have required := one.consequence (fun _ before => before) (fun _ _ after => after)
        fun _ _ => trivial
      refine required.bind fun _ => required.bind fun _ => required.bind fun _ => ?_
      exact Meets.pure fun _ before => ⟨rfl, before⟩
    have round : Meets (fun p => p.socket = written)
        (Server.Registry.exportImageHandles vk image >>= writeImageHandles)
        (fun _ p => p.socket = written ++ inOrder (exported image)) (fun _ => True) := by
      refine exports.bind fun handles => Meets.assuming ?_
      rintro rfl p before
      rw [writeImageHandles_inOrder, ← before]
    refine round.bind fun _ => (ih _).consequence (fun _ before => before)
      (fun _ p after => ?_) fun _ _ => trivial
    rw [List.map_cons, List.flatMap_cons, ← List.append_assoc]
    exact after

end Server

section Client

variable {vk : Nat → VkResult} {rest : List Nat}

/-- A program that leaves the socket alone, whatever it returns. -/
theorem socket_stays {α : Type} {program : Program Platform α}
    (kept : Keeps Platform.socket program) :
    Meets (fun p => p.socket = rest) program (fun _ p => p.socket = rest) (fun _ => True) :=
  (kept.meets fun socket => socket = rest).consequence (fun _ before => before)
    (fun _ _ after => after) fun _ _ => trivial

/-- An image is imported from the handles that are first in the socket. -/
theorem importImage_handles (handles : ImageHandles) :
    Meets (fun p => p.socket = inOrder handles ++ rest) (Client.Registry.importImage vk)
      (fun imported p => imported.handles = handles ∧ p.socket = rest) (fun _ => True) := by
  have read : Meets (fun p => p.socket = inOrder handles ++ rest) readImageHandles
      (fun found p => found = handles ∧ p.socket = rest) (fun _ => True) := by
    intro p before
    rw [readImageHandles_inOrder before]
    exact ⟨rfl, rfl⟩
  have imports : Keeps Platform.socket (Client.Registry.importSemaphore vk) :=
    create_socket.bind fun _ => require_socket.bind fun _ => Keeps.pure
  refine read.bind fun found => Meets.assuming fun same => ?_
  refine (socket_stays create_socket).bind fun image => ?_
  refine (socket_stays create_socket).bind fun memory => ?_
  refine (socket_stays require_socket).bind fun _ => ?_
  refine (socket_stays imports).bind fun renderingDone => ?_
  refine (socket_stays imports).bind fun copyingDone => ?_
  exact Meets.pure fun _ after => ⟨same, after⟩

/-- The images are imported in the order of their handles. -/
theorem importImages_handles (handles : List ImageHandles) :
    Meets (fun p => p.socket = handles.flatMap inOrder ++ rest)
      (Client.Registry.importImages vk handles.length)
      (fun imported p => imported.map Client.Registry.ImportedImage.handles = handles ∧
        p.socket = rest) (fun _ => True) := by
  have loop := @Meets.collect Platform Client.Registry.ImportedImage (fun _ => True) _
    (fun _ => Client.Registry.importImage vk)
    (fun earlier imported p =>
      imported.map Client.Registry.ImportedImage.handles = handles.take earlier.length ∧
        p.socket = (handles.drop earlier.length).flatMap inOrder ++ rest)
    (List.range handles.length) ?_
  · refine loop.consequence (fun p before => ⟨by simp, by simpa using before⟩)
      (fun imported p after => ?_) fun _ _ => trivial
    rw [List.length_range, List.take_length, List.drop_length, List.flatMap_nil,
      List.nil_append] at after
    exact after
  · intro earlier index later imported whole
    have split := congrArg List.length whole
    rw [List.length_range, List.length_append, List.length_cons] at split
    have inside : earlier.length < handles.length := by omega
    refine Meets.assuming fun so => ?_
    have first := List.drop_eq_getElem_cons inside
    refine (@importImage_handles vk ((handles.drop (earlier.length + 1)).flatMap inOrder ++ rest)
      handles[earlier.length]).consequence (fun p before => ?_)
      (fun image p after => ?_) fun _ _ => trivial
    · rw [before, first, List.flatMap_cons, List.append_assoc]
    · rw [List.length_append, List.length_singleton]
      refine ⟨?_, after.2⟩
      rw [List.map_append, so, List.take_succ_eq_append_getElem inside, List.map_singleton,
        after.1]

/-- What is added to an imported image does not need the socket. -/
theorem createImages_handles (session : Client.Registry.SessionState)
    (handles : List ImageHandles) :
    Meets (fun p => p.socket = handles.flatMap inOrder ++ rest)
      (Client.Registry.createImages vk session handles.length)
      (fun images p => images.map Client.Registry.OwnedImage.handles = handles ∧
        p.socket = rest) (fun _ => True) := by
  refine (importImages_handles handles).bind fun imported => Meets.assuming fun same => ?_
  have records : Keeps Platform.socket
      (Client.Registry.recordCommandBuffer vk session.commandPool) :=
    allocateCommandBuffer_socket.bind fun _ => require_socket.bind fun _ =>
      require_socket.bind fun _ => Keeps.pure
  have loop := @Meets.collect Platform Client.Registry.OwnedImage (fun _ => True) _
    (Client.Registry.createImage vk session)
    (fun earlier images p => images.map Client.Registry.OwnedImage.handles =
      earlier.map Client.Registry.ImportedImage.handles ∧ p.socket = rest) imported ?_
  · refine loop.consequence (fun p before => ⟨rfl, before⟩) (fun images p after => ?_)
      fun _ _ => trivial
    rw [← same]
    exact after
  · intro earlier item later images _
    refine Meets.assuming fun so => ?_
    refine (socket_stays create_socket).bind fun fence => ?_
    refine (socket_stays records).bind fun acquire => ?_
    refine (socket_stays records).bind fun release => ?_
    refine Meets.pure fun _ after => ⟨?_, after⟩
    rw [List.map_append, List.map_append, so]
    rfl

end Client

section Steps

variable {world : World} {call : Creation}

/-- What the server has done when it replies with a swapchain. -/
structure Registered (world : World) (call : Creation) (images : List Server.Registry.OwnedImage)
    (message : CreateSwapchainReturn) (server : Server.Registry.State) : Prop where
  /-- The reply. -/
  message : message = ⟨.success, call.answers.created.2, images.length⟩
  /-- There is an image for every image of the runtime. -/
  number : images.length = call.answers.enumerated.2.length
  /-- The swapchain is registered with its images. -/
  stored : ∃ swapchain : Server.Registry.Swapchain, swapchain.sharedImages = images ∧
    server.swapchainStates =
      world.server.swapchainStates.insert call.answers.created.2 swapchain
  /-- It is alive. -/
  alive : server.alive = (call.answers.created.2, call.session) :: world.server.alive
  /-- Its handles are in the socket. -/
  written : server.platform.socket = (images.map exported).flatMap inOrder

/-- A handle that the runtime may return is not registered on the server. -/
theorem AllOrNothing.fresh (holds : AllOrNothing world)
    (lawful : Server.Registry.Lawful world.server
      (.createSwapchain call.serializes call.answers call.session call.createInfo))
    (succeeded : call.answers.created.1.succeeded = true) :
    world.server.swapchainStates.lookup call.answers.created.2 = none :=
  (holds.alive _).mpr (lawful succeeded)

/-- The server's handler replies with the result of the runtime or with a swapchain. -/
theorem handled_returns (holds : AllOrNothing world)
    (lawful : Server.Registry.Lawful world.server
      (.createSwapchain call.serializes call.answers call.session call.createInfo))
    (serializes : call.serializes = true) {message : CreateSwapchainReturn}
    (replies : (handled world call).1 = some message) :
    (call.answers.created.1 ≠ .success ∧ message = { result := call.answers.created.1 } ∧
      (handled world call).2 = world.server.runtimeCreates call.answers call.session) ∨
    (call.answers.created.1 = .success ∧
      ∃ images, Registered world call images message (handled world call).2) := by
  have spec := Server.Registry.handleCreateSwapchain_eq call.serializes call.answers call.session
    call.createInfo world.server
  rw [← handled, serializes] at spec
  by_cases refused : call.answers.created.1 = .success
  case neg =>
    simp only [Bool.not_true, Bool.false_eq_true, if_false, ne_eq, refused, not_false_eq_true,
      if_true] at spec
    rw [spec] at replies
    exact .inl ⟨refused, (Option.some.inj replies).symm, by rw [spec]⟩
  have succeeded : call.answers.created.1.succeeded = true := by
    rw [refused]
    rfl
  have unregistered := holds.fresh lawful succeeded
  have runtime : world.server.runtimeCreates call.answers call.session =
      { world.server with
        alive := (call.answers.created.2, call.session) :: world.server.alive } := if_pos succeeded
  simp only [Bool.not_true, Bool.false_eq_true, if_false, ne_eq, refused, not_true_eq_false,
    runtime] at spec
  refine .inr ⟨refused, ?_⟩
  split at spec
  · rw [spec] at replies
    cases replies
  split at spec
  · rw [spec] at replies
    cases replies
  split at spec
  · rw [spec] at replies
    cases replies
  · rw [spec] at replies
    cases replies
  next sessionState _ _ images platform imageType made _ =>
    have silent := createImages_socket call.answers world.server.savedVkCommandPool
      call.createInfo.createFlags world.server.platform
    rw [made, holds.written] at silent
    have writes := writeImages_socket call.answers.vk images [] platform silent
    rw [unregistered, Option.getD_none] at spec
    have shared : (Server.Registry.newSwapchain call.answers call.createInfo call.session images
        imageType).sharedImages = images := rfl
    rw [shared] at spec
    rcases written : Server.Registry.writeImages call.answers.vk images platform with
      ⟨_ | _, after⟩
    · rw [spec, written] at replies
      cases replies
    rw [written] at writes spec
    rw [spec] at replies
    rw [spec]
    refine ⟨images, (Option.some.inj replies).symm, createImages_length made,
      ⟨_, shared, ?_⟩, rfl, ?_⟩
    · exact Registry.emplace_of_none unregistered
    · rw [List.nil_append] at writes
      exact writes

/-- When the swapchain of the server is not registered on the client, something has been lost. -/
theorem not_allOrNothing_of_lost {after : World} {handle : Handle}
    (lost : after.client.swapchainStates.lookup handle = none)
    (registered : after.server.swapchainStates.lookup handle ≠ none) : ¬AllOrNothing after :=
  fun holds => registered ((holds.registered handle).mp lost)

/-- Both sides register the swapchain. -/
theorem AllOrNothing.register (holds : AllOrNothing world) {after : World} {handle : Handle}
    {session : Handle} {mine : Client.Registry.Swapchain} {theirs : Server.Registry.Swapchain}
    (read : after.client.platform.socket = []) (written : after.server.platform.socket = [])
    (client : after.client.swapchainStates = world.client.swapchainStates.insert handle mine)
    (server : after.server.swapchainStates = world.server.swapchainStates.insert handle theirs)
    (alive : after.server.alive = (handle, session) :: world.server.alive)
    (matching : mine.images.map Client.Registry.OwnedImage.handles =
      theirs.sharedImages.map exported) : AllOrNothing after := by
  refine ⟨read, written, fun swapchain => ?_, fun swapchain => ?_, ?_⟩
  · rw [client, server]
    by_cases new : swapchain = handle
    · subst new
      rw [AList.lookup_insert, AList.lookup_insert]
      exact iff_of_false (Option.some_ne_none _) (Option.some_ne_none _)
    · rw [AList.lookup_insert_ne new, AList.lookup_insert_ne new]
      exact holds.registered swapchain
  · rw [server, alive]
    by_cases new : swapchain = handle
    · subst new
      rw [AList.lookup_insert]
      exact iff_of_false (Option.some_ne_none _) fun absent => absent _ List.mem_cons_self rfl
    · rw [AList.lookup_insert_ne new, holds.alive, List.forall_mem_cons]
      exact (and_iff_right (Ne.symm new)).symm
  · intro swapchain one other found there
    rw [client] at found
    rw [server] at there
    by_cases new : swapchain = handle
    · subst new
      rw [AList.lookup_insert] at found there
      obtain rfl := Option.some.inj found
      obtain rfl := Option.some.inj there
      exact matching
    · rw [AList.lookup_insert_ne new] at found there
      exact holds.matching swapchain one other found there

/-- The client's function when the server has replied with a swapchain. -/
theorem registered_allOrNothing_iff (holds : AllOrNothing world)
    {sessionState : Client.Registry.SessionState}
    (found : world.client.sessionStates.lookup call.session = some sessionState)
    (unregistered : world.server.swapchainStates.lookup call.answers.created.2 = none)
    {owned : List (Kind × Nat)} (balanced : world.client.platform.ledger.Balanced owned)
    {images : List Server.Registry.OwnedImage} {message : CreateSwapchainReturn}
    {server : Server.Registry.State} (registered : Registered world call images message server) :
    let client := (performed (receive world.client server.platform.socket) call (some message)).2
    (AllOrNothing { client := client, server := handOver server } ↔
      Client.Registry.imageTypeOf call.createInfo.usageFlags ≠ none ∧
        ∀ number < 14 * call.answers.enumerated.2.length,
          call.vk (world.client.platform.issued + number) = .success) ∧
      ∃ owned', client.platform.ledger.Balanced owned' := by
  obtain ⟨rfl, number, ⟨theirs, shared, stored⟩, alive, written⟩ := registered
  have absent := (holds.registered call.answers.created.2).mpr unregistered
  have present : (handOver server).swapchainStates.lookup call.answers.created.2 ≠ none := by
    have inserted : server.swapchainStates.lookup call.answers.created.2 = some theirs := by
      rw [stored]
      exact AList.lookup_insert _
    rw [handOver, inserted]
    exact Option.some_ne_none theirs
  set client := receive world.client server.platform.socket with client_eq
  have looked : client.sessionStates.lookup call.session = some sessionState := found
  simp only [performed, Client.Registry.xrCreateSwapchain_eq, looked, ne_eq, not_true_eq_false,
    if_false]
  cases type : Client.Registry.imageTypeOf call.createInfo.usageFlags with
  | none =>
    refine ⟨iff_of_false ?_ (by simp), owned, balanced⟩
    exact not_allOrNothing_of_lost absent present
  | some imageType =>
    have creates := @Client.Registry.createImages_meets call.vk _ world.client.platform.issued
      owned sessionState images.length id client.platform
      ⟨balanced, rfl, fun _ none => absurd none (Nat.not_lt_zero _)⟩
    have socket : client.platform.socket = (images.map exported).flatMap inOrder ++ [] := by
      rw [client_eq, receive, holds.read, written, List.nil_append, List.append_nil]
    have reads := @createImages_handles call.vk [] sessionState (images.map exported)
      client.platform socket
    rw [List.length_map] at reads
    rcases made : Client.Registry.createImages call.vk sessionState images.length client.platform
      with ⟨_ | mine, platform⟩
    · rw [made] at creates
      obtain ⟨leaked, left, -⟩ := creates.leaks
      refine ⟨iff_of_false (not_allOrNothing_of_lost absent present) ?_, _, left⟩
      rintro ⟨-, all⟩
      rw [← number] at all
      exact creates.unsuccessful all
    · rw [made] at creates reads
      refine ⟨iff_of_true ?_ ⟨by simp, by rw [← number]; exact creates.succeeded⟩, _,
        creates.balanced⟩
      refine @AllOrNothing.register world holds _ call.answers.created.2 call.session
        (Client.Registry.newSwapchain call.createInfo call.answers.created.2 call.session mine
          imageType) theirs reads.2 rfl ?_ stored alive ?_
      · exact Registry.emplace_of_none absent
      · rw [shared]
        exact reads.1

/-- A refusal of the runtime that counts as a success leaves its swapchain alone. -/
theorem refused_allOrNothing_iff (holds : AllOrNothing world)
    (lawful : Server.Registry.Lawful world.server
      (.createSwapchain call.serializes call.answers call.session call.createInfo)) :
    AllOrNothing {
        client := receive world.client []
        server := handOver (world.server.runtimeCreates call.answers call.session) } ↔
      call.answers.created.1.succeeded = false := by
  cases succeeded : call.answers.created.1.succeeded with
  | false =>
    have runtime : world.server.runtimeCreates call.answers call.session = world.server :=
      if_neg (by rw [succeeded]; exact Bool.false_ne_true)
    rw [runtime]
    refine iff_of_true ⟨?_, rfl, holds.registered, holds.alive, holds.matching⟩ rfl
    exact (List.append_nil _).trans holds.read
  | true =>
    have runtime : world.server.runtimeCreates call.answers call.session =
        { world.server with
          alive := (call.answers.created.2, call.session) :: world.server.alive } :=
      if_pos succeeded
    rw [runtime]
    refine iff_of_false (fun after => ?_) (by decide)
    have absent := (after.alive call.answers.created.2).mp (holds.fresh lawful succeeded)
    exact absent _ List.mem_cons_self rfl

/-- A call that returns keeps both sides together exactly if it meets the condition. -/
theorem createSwapchain_allOrNothing_iff (holds : AllOrNothing world)
    {owned : List (Kind × Nat)} (balanced : world.client.platform.ledger.Balanced owned)
    (lawful : Server.Registry.Lawful world.server
      (.createSwapchain call.serializes call.answers call.session call.createInfo))
    {result : XrResult} {after : World}
    (returned : createSwapchain world call = some (result, after)) :
    (AllOrNothing after ↔ Completes world call) ∧
      ∃ owned', after.client.platform.ledger.Balanced owned' := by
  unfold createSwapchain at returned
  cases found : world.client.sessionStates.lookup call.session with
  | none =>
    rw [found] at returned
    obtain ⟨-, rfl⟩ := Prod.mk.inj (Option.some.inj returned)
    exact ⟨iff_of_true holds fun session => absurd found session, owned, balanced⟩
  | some sessionState =>
    rw [found] at returned
    cases serializes : call.serializes with
    | false =>
      have handler : handled world call = (none, world.server) := by
        rw [handled, Server.Registry.handleCreateSwapchain_eq, serializes]
        rfl
      have client : (performed world.client call none).2 = world.client := by
        rw [performed, Client.Registry.xrCreateSwapchain_eq, found]
      simp only [serializes, Bool.false_eq_true, if_false, handler, client] at returned
      obtain ⟨-, rfl⟩ := Prod.mk.inj (Option.some.inj returned)
      refine ⟨iff_of_true holds fun _ never => ?_, owned, balanced⟩
      rw [serializes] at never
      cases never
    | true =>
      simp only [serializes, if_true] at returned
      split at returned
      · cases returned
      next message replies =>
      obtain ⟨-, rfl⟩ := Prod.mk.inj (Option.some.inj returned)
      rcases handled_returns holds lawful serializes replies with
        ⟨refused, rfl, server⟩ | ⟨success, images, registered⟩
      · have runtime : (handled world call).2.platform.socket = [] := by
          rw [server, (Server.Registry.runtimeCreates_same _ _).1]
          exact holds.written
        have client : (performed (receive world.client (handled world call).2.platform.socket) call
            (some { result := call.answers.created.1 })).2 = receive world.client [] := by
          have looked : (receive world.client []).sessionStates.lookup call.session =
              some sessionState := found
          rw [runtime, performed, Client.Registry.xrCreateSwapchain_eq, looked]
          simp only [ne_eq, refused, not_false_eq_true, if_true]
        rw [client]
        have conditions : Completes world call ↔ call.answers.created.1.succeeded = false := by
          simp [Completes, found, serializes, refused]
        refine ⟨?_, owned, balanced⟩
        rw [conditions, server]
        exact refused_allOrNothing_iff holds lawful
      · have succeeded : call.answers.created.1.succeeded = true := by
          rw [success]
          rfl
        have performs := registered_allOrNothing_iff holds found
          (holds.fresh lawful succeeded) balanced registered
        refine ⟨performs.1.trans ?_, performs.2⟩
        simp [Completes, found, serializes, success, XrResult.succeeded, XrResult.success]

end Steps

/-- The objects of the client have been counted. -/
def Counted (world : World) : Prop := ∃ owned, world.client.platform.ledger.Balanced owned

/-- A step is a call that returns. -/
theorem step_eq_some {start before after : World} {call : Creation}
    (taken : (system start).step before call = some after) :
    Server.Registry.Lawful before.server
        (.createSwapchain call.serializes call.answers call.session call.createInfo) ∧
      ∃ result, createSwapchain before call = some (result, after) := by
  simp only [system] at taken
  split at taken
  · obtain ⟨⟨result, _⟩, returned, rfl⟩ := Option.map_eq_some_iff.mp taken
    exact ⟨‹_›, result, returned⟩
  · cases taken

/-- In every run of calls that return, from a state in which both sides are together, they are
together after every call exactly if every call meets the condition. -/
theorem allOrNothing_iff (start world : World) (together : AllOrNothing start)
    (owned : List (Kind × Nat)) (balanced : start.client.platform.ledger.Balanced owned)
    (calls : List Creation) (ran : (system start).run start calls = some world) :
    ((system start).Along (fun world _ => AllOrNothing world) start calls ∧ AllOrNothing world) ↔
      (system start).Along Completes start calls := by
  refine @System.along_holds_iff_of_invariant _ _ (system start) Counted AllOrNothing Completes
    (fun before call after sound holds taken => ?_) (fun before call after sound holds taken => ?_)
    _ _ _ ⟨owned, balanced⟩ together ran
  · obtain ⟨_, balanced⟩ := sound
    obtain ⟨lawful, _, returned⟩ := step_eq_some taken
    exact (createSwapchain_allOrNothing_iff holds balanced lawful returned).2
  · obtain ⟨_, balanced⟩ := sound
    obtain ⟨lawful, _, returned⟩ := step_eq_some taken
    exact (createSwapchain_allOrNothing_iff holds balanced lawful returned).1

/-- Both sides have a session 7 and nothing else. -/
def oneSession : World where
  client := {
    savedXrInstance := 1
    graphicsRequirementsCalled := true
    sessionStates := AList.insert 7 ⟨7, ⟨2, 3, 4, 0, 0⟩, 5, 6, []⟩ ∅ }
  server := { sessionStates := AList.insert 7 ⟨7, []⟩ ∅ }

/-- Nothing is in the socket and nothing registered. -/
theorem oneSession_together : AllOrNothing oneSession := by
  refine ⟨rfl, rfl, fun swapchain => iff_of_true rfl rfl, fun swapchain => ?_,
    fun swapchain one other found => ?_⟩
  · exact iff_of_true rfl fun pair absent => absurd absent List.not_mem_nil
  · cases found

/-- A swapchain of one image, of a given usage, that goes well on the server. -/
def goesWell (usageFlags : Nat) (handle : Handle) : Creation where
  vk := fun _ => .success
  next := none
  serializes := true
  answers := {
    vk := fun _ => .success
    created := (.success, handle)
    counted := .success
    enumerated := (.success, [20])
    memoryTypes := [Server.Registry.deviceLocalBit]
    memoryTypeBits := fun _ => 1 }
  session := 7
  createInfo := ⟨0, usageFlags, 64, 64⟩

/-- The client and the server create two color swapchains. -/
theorem twoSwapchains_together :
    ∃ world, (system oneSession).run oneSession
      [goesWell colorAttachmentBit 8, goesWell colorAttachmentBit 9] = some world ∧
      AllOrNothing world := by
  obtain ⟨world, ran⟩ := Option.isSome_iff_exists.mp
    (by decide +kernel : ((system oneSession).run oneSession
      [goesWell colorAttachmentBit 8, goesWell colorAttachmentBit 9]).isSome = true)
  refine ⟨world, ran, ?_⟩
  refine ((allOrNothing_iff oneSession world oneSession_together [] (.refl _)
    [goesWell colorAttachmentBit 8, goesWell colorAttachmentBit 9] ran).mpr ?_).2
  decide +kernel

/-- The registries of both sides after a run, at a handle. -/
def registeredAt (handle : Handle) (world : World) : Bool × Bool :=
  ((world.client.swapchainStates.lookup handle).isSome,
    (world.server.swapchainStates.lookup handle).isSome)

/-- A swapchain with both usages is registered on the server and refused by the client, and its
handles stay in the socket. -/
theorem bothUsages_apart :
    ¬∀ (start world : World) (owned : List (Kind × Nat)) (calls : List Creation),
      AllOrNothing start → start.client.platform.ledger.Balanced owned →
      (system start).run start calls = some world →
      (system start).Along (fun world _ => AllOrNothing world) start calls ∧
        AllOrNothing world := by
  intro always
  have apart : ((system oneSession).run oneSession [goesWell 3 8]).map (registeredAt 8) =
      some (false, true) := by
    decide +kernel
  obtain ⟨world, ran, registered⟩ := Option.map_eq_some_iff.mp apart
  have together := (always oneSession world [] [goesWell 3 8] oneSession_together (.refl _) ran).2
  obtain ⟨lost, present⟩ := Prod.mk.inj registered
  have absent := (together.registered 8).mp (Option.isNone_iff_eq_none.mp (by simpa using lost))
  rw [absent] at present
  cases present

end XrTransport.Vulkan.SwapchainCreation
