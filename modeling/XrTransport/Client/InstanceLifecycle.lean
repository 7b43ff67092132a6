import XrTransport.Foundation.Transition
import XrTransport.Server.InstanceState
import XrTransport.Server.LivePointers

/-!
# The life of an instance, on both sides

`xrCreateInstanceImpl` and the generated stub of `xrDestroyInstance` on the client, joined with the
server. The instance that is live in the runtime is recorded in four places: `saved_instance` of the
client and of the server, `loader_instance`, and the flag that enables clock synchronization. Only
creating an instance writes all of them.
-/
namespace XrTransport.Client

open Server (Answers Payload Module Reply dispatch)

/-- `XrInstanceCreateInfo`, as far as the client looks at it. -/
structure InstanceCreateInfo where
  /-- `applicationInfo.apiVersion`. -/
  apiVersion : Nat
  /-- `enabledExtensionNames`. -/
  enabledExtensions : List String
deriving DecidableEq, Repr

/-- The client's globals. -/
structure ClientState where
  /-- `XR_CURRENT_API_VERSION` of the build. -/
  currentApiVersion : Nat
  /-- `available_extensions`. -/
  availableExtensions : List String
  /-- `saved_instance`. -/
  savedInstance : Nat := 0
  /-- `synchronization_enabled`. -/
  synchronizationEnabled : Bool := false
deriving DecidableEq, Repr

/-- Both processes between two calls. -/
structure World where
  /-- The client. -/
  client : ClientState
  /-- The server and the runtime. -/
  server : Server.State

/-- What is not determined by the arguments of a call. -/
structure Circumstances where
  /-- Whether `sync_interval` has passed since the last synchronization. -/
  due : Bool
  /-- What the runtime answers in each of the rounds of a synchronization. -/
  rounds : Nat → Answers
  /-- Whether the create info can be serialized. -/
  serializes : Bool := true
  /-- Whether the server can decode the arguments. -/
  decodes : Bool := true
  /-- What the runtime and Vulkan answer to the call itself. -/
  answers : Answers

/-- A call of the application. -/
inductive Call where
  /-- `xrCreateInstance`. -/
  | create (createInfo : InstanceCreateInfo) (circumstances : Circumstances)
  /-- `xrDestroyInstance`. -/
  | destroy (handle : Nat) (circumstances : Circumstances)

/-- A request and the wait for its reply. There is no state after it when the server sends none:
the client's thread stays in `await_message`. -/
def exchange (server : Server.State) (delivery : Server.Delivery) :
    Option (Reply × Server.State) :=
  match dispatch server delivery with
  | none => none
  | some server' =>
    match server'.replies with
    | [reply] => some (reply, server')
    | _ => none

/-- `do_synchronize`, by the number of rounds left. -/
def doSynchronize (rounds : Nat → Answers) : Nat → Server.State → Option Server.State
  | 0, server => some server
  | left + 1, server => do
    let delivery : Server.Delivery := ⟨.synchronizationRequest, { decodes := true }, rounds left⟩
    let (_, server') ← exchange server delivery
    doSynchronize rounds left server'

/-- `sync_iterations`. -/
def syncIterations : Nat := 20

/-- `get_time_offset(true)`, without the offset. -/
def getTimeOffset (client : ClientState) (circumstances : Circumstances) (server : Server.State) :
    Option Server.State :=
  if client.synchronizationEnabled && circumstances.due then
    doSynchronize circumstances.rounds syncIterations server
  else some server

/-- The generated stub `rpc::xrCreateInstance`: the result, the instance it writes, and the server
afterwards. What has been written is sent even when serializing throws. -/
def rpcCreateInstance (client : ClientState) (circumstances : Circumstances)
    (server : Server.State) : Option (XrResult × Option Nat × Server.State) := do
  let server ← getTimeOffset client circumstances server
  let delivery (decodes : Bool) : Server.Delivery :=
    ⟨.functionCall (some .createInstance), { decodes := decodes }, circumstances.answers⟩
  if circumstances.serializes then
    let (reply, server) ← exchange server (delivery circumstances.decodes)
    return (reply.result.getD .runtimeFailure, reply.handle, server)
  else
    let server ← dispatch server (delivery false)
    return (.runtimeFailure, none, server)

/-- `xrCreateInstanceImpl`. -/
def createInstance (createInfo : InstanceCreateInfo) (circumstances : Circumstances)
    (world : World) : Option (XrResult × World) :=
  let client := world.client
  if client.savedInstance ≠ 0 then some (.limitReached, world)
  else if client.currentApiVersion < createInfo.apiVersion then
    some (.apiVersionUnsupported, world)
  else if createInfo.enabledExtensions.any (fun name => !client.availableExtensions.contains name)
  then some (.extensionNotPresent, world)
  else
    match rpcCreateInstance client circumstances world.server with
    | none => none
    | some (result, written, server) =>
      if result.succeeded then
        some (result, {
          client := { client with
            savedInstance := written.getD 0
            synchronizationEnabled := true }
          server := server })
      else some (result, ⟨client, server⟩)

/-- The generated stub of `xrDestroyInstance`, which nothing is layered over. -/
def destroyInstance (handle : Nat) (circumstances : Circumstances) (world : World) :
    Option (XrResult × World) := do
  let server ← getTimeOffset world.client circumstances world.server
  let delivery : Server.Delivery :=
    ⟨.functionCall (some .destroyInstance),
      { decodes := circumstances.decodes, handle := handle }, circumstances.answers⟩
  let (reply, server) ← exchange server delivery
  return (reply.result.getD .runtimeFailure, ⟨world.client, server⟩)

/-- A call of the application, with its result. -/
def Call.perform (world : World) : Call → Option (XrResult × World)
  | .create createInfo circumstances => createInstance createInfo circumstances world
  | .destroy handle circumstances => destroyInstance handle circumstances world

/-- A client connected to a server that has just been constructed. -/
def lifecycle (client : ClientState) (answers : Answers) (modules : List Module)
    (savedInstance : Nat) : System World Call where
  init := ⟨{ client with savedInstance := 0, synchronizationEnabled := false },
    Server.construct answers modules savedInstance⟩
  step := fun world call => (call.perform world).map Prod.snd

/-- The four records agree: they hold the one live instance, or nothing when none is live. -/
structure Agree (world : World) : Prop where
  /-- `Server::saved_instance`. -/
  server : world.server.savedInstance = world.client.savedInstance
  /-- `loader_instance`. -/
  loader : world.server.loaderInstance = world.client.savedInstance
  /-- The runtime's instances. -/
  live : world.server.runtime.live.map Server.Instance.handle =
    if world.client.savedInstance = 0 then [] else [world.client.savedInstance]
  /-- Clock synchronization is enabled exactly while an instance is live. -/
  synchronization : world.client.synchronizationEnabled = true ↔
    world.server.runtime.live ≠ []

instance (world : World) : Decidable (Agree world) :=
  decidable_of_iff
    (world.server.savedInstance = world.client.savedInstance ∧
      world.server.loaderInstance = world.client.savedInstance ∧
      (world.server.runtime.live.map Server.Instance.handle =
        if world.client.savedInstance = 0 then [] else [world.client.savedInstance]) ∧
      (world.client.synchronizationEnabled = true ↔ world.server.runtime.live ≠ []))
    ⟨fun ⟨server, loader, live, synchronization⟩ => ⟨server, loader, live, synchronization⟩,
      fun ⟨server, loader, live, synchronization⟩ => ⟨server, loader, live, synchronization⟩⟩

/-- The call does not destroy a live instance. -/
def Spares (world : World) : Call → Prop
  | .create _ _ => True
  | .destroy handle _ => ∀ one ∈ world.server.runtime.live, one.handle ≠ handle

instance (world : World) (call : Call) : Decidable (Spares world call) := by
  cases call with
  | create createInfo circumstances => exact .isTrue trivial
  | destroy handle circumstances =>
    exact inferInstanceAs (Decidable (∀ one ∈ world.server.runtime.live, one.handle ≠ handle))

/-- Agreement is about the client and the records of the server. -/
theorem Agree.of_instances {client : ClientState} {server server' : Server.State}
    (agree : Agree ⟨client, server⟩) (same : server'.instances = server.instances) :
    Agree ⟨client, server'⟩ := by
  simp only [Server.State.instances, Server.Record.mk.injEq] at same
  obtain ⟨saved, loader, runtime⟩ := same
  constructor
  · exact saved.trans agree.server
  · exact loader.trans agree.loader
  · exact runtime ▸ agree.live
  · exact runtime ▸ agree.synchronization

/-- A reply is the only message sent for its request. -/
theorem exchange_eq_some {server server' : Server.State} {delivery : Server.Delivery}
    {reply : Reply} (exchanged : exchange server delivery = some (reply, server')) :
    dispatch server delivery = some server' ∧ server'.replies = [reply] := by
  unfold exchange at exchanged
  split at exchanged
  · contradiction
  next after taken =>
    split at exchanged
    next only replies =>
      simp only [Option.some.injEq, Prod.mk.injEq] at exchanged
      obtain ⟨rfl, rfl⟩ := exchanged
      exact ⟨taken, replies⟩
    · contradiction

/-- Every round of a synchronization leaves the records alone. -/
theorem doSynchronize_instances {rounds : Nat → Answers} {left : Nat}
    {server server' : Server.State} (ran : doSynchronize rounds left server = some server') :
    server'.instances = server.instances := by
  induction left generalizing server with
  | zero =>
    obtain rfl := Option.some.inj ran
    rfl
  | succ left ih =>
    rw [doSynchronize] at ran
    obtain ⟨⟨reply, middle⟩, exchanged, rest⟩ := Option.bind_eq_some_iff.mp ran
    have first := Server.dispatch_synchronization (exchange_eq_some exchanged).1
    exact (ih rest).trans first

/-- Synchronizing before a call leaves the records alone. -/
theorem getTimeOffset_instances {client : ClientState} {circumstances : Circumstances}
    {server server' : Server.State}
    (ran : getTimeOffset client circumstances server = some server') :
    server'.instances = server.instances := by
  unfold getTimeOffset at ran
  split at ran
  · exact doSynchronize_instances ran
  · obtain rfl := Option.some.inj ran
    rfl

/-- The stub returns success exactly when the server has recorded the new instance, and writes that
instance. -/
theorem rpcCreateInstance_eq_some {client : ClientState} {circumstances : Circumstances}
    {server server' : Server.State} {result : XrResult} {written : Option Nat}
    (ran : rpcCreateInstance client circumstances server = some (result, written, server')) :
    (result.succeeded = true ∧ written = some circumstances.answers.created.val ∧
      server'.instances = ⟨circumstances.answers.created, circumstances.answers.created,
        server.runtime.create circumstances.answers.created⟩) ∨
    (result.succeeded = false ∧ server'.instances = server.instances) := by
  rw [rpcCreateInstance] at ran
  obtain ⟨middle, synchronized, ran⟩ := Option.bind_eq_some_iff.mp ran
  have kept := getTimeOffset_instances synchronized
  split at ran
  · obtain ⟨⟨reply, after⟩, exchanged, returned⟩ := Option.bind_eq_some_iff.mp ran
    simp only [Option.pure_def, Option.some.injEq, Prod.mk.injEq] at returned
    obtain ⟨rfl, rfl, rfl⟩ := returned
    obtain ⟨taken, replies⟩ := exchange_eq_some exchanged
    rcases Server.dispatch_create taken with nothing | seen
    · rw [nothing] at replies
      contradiction
    · simp only [Server.State.seen, Prod.mk.injEq, replies, List.cons.injEq, and_true] at seen
      obtain ⟨instances, rfl⟩ := seen
      have runtime : middle.instances.runtime = server.runtime := by rw [kept]; rfl
      cases succeeded : (circumstances.answers.result .createInstance 0).succeeded with
      | true =>
        left
        simp [Server.createReply, succeeded, instances, Server.Record.created, runtime]
      | false =>
        right
        simp [Server.createReply, succeeded, instances, Server.Record.created, kept]
  · obtain ⟨after, taken, returned⟩ := Option.bind_eq_some_iff.mp ran
    simp only [Option.pure_def, Option.some.injEq, Prod.mk.injEq] at returned
    obtain ⟨rfl, rfl, rfl⟩ := returned
    exact .inr ⟨rfl, (Server.dispatch_undecoded rfl taken).trans kept⟩

/-- Creating an instance keeps the agreement, whatever fails. -/
theorem createInstance_agree {createInfo : InstanceCreateInfo} {circumstances : Circumstances}
    {world world' : World} {result : XrResult} (agree : Agree world)
    (ran : createInstance createInfo circumstances world = some (result, world')) :
    Agree world' := by
  have unchanged {code : XrResult} (same : some (code, world) = some (result, world')) :
      Agree world' := by
    simp only [Option.some.injEq, Prod.mk.injEq] at same
    obtain ⟨_, rfl⟩ := same
    exact agree
  unfold createInstance at ran
  dsimp only at ran
  split at ran
  · exact unchanged ran
  split at ran
  · exact unchanged ran
  split at ran
  · exact unchanged ran
  next free _ _ =>
    have none : world.client.savedInstance = 0 := by simpa using free
    split at ran
    · contradiction
    next code written server called =>
      rcases rpcCreateInstance_eq_some called with ⟨succeeded, rfl, instances⟩ | ⟨failed, kept⟩
      · simp only [succeeded, if_true, Option.some.injEq, Prod.mk.injEq] at ran
        obtain ⟨-, rfl⟩ := ran
        simp only [Server.State.instances, Server.Record.mk.injEq] at instances
        obtain ⟨saved, loader, runtime⟩ := instances
        have empty : world.server.runtime.live.map Server.Instance.handle = [] := by
          rw [agree.live, if_pos none]
        constructor
        · exact saved
        · exact loader
        · simp [runtime, Server.Runtime.create, empty, circumstances.answers.created.property]
        · simp [runtime, Server.Runtime.create]
      · simp only [failed, Bool.false_eq_true, if_false, Option.some.injEq, Prod.mk.injEq] at ran
        obtain ⟨-, rfl⟩ := ran
        exact agree.of_instances kept

/-- A live instance is the one that is saved. -/
theorem Agree.handle_eq {world : World} (agree : Agree world) {one : Server.Instance}
    (live : one ∈ world.server.runtime.live) :
    one.handle = world.client.savedInstance ∧ world.client.savedInstance ≠ 0 := by
  have listed := List.mem_map_of_mem (f := Server.Instance.handle) live
  rw [agree.live] at listed
  split at listed
  · contradiction
  next saved => exact ⟨List.mem_singleton.mp listed, saved⟩

/-- The saved instance is live. -/
theorem Agree.saved_live {world : World} (agree : Agree world)
    (saved : world.client.savedInstance ≠ 0) :
    ∃ one ∈ world.server.runtime.live, one.handle = world.client.savedInstance := by
  have listed := agree.live
  rw [if_neg saved] at listed
  exact List.mem_map.mp (listed ▸ List.mem_singleton_self _)

/-- Destroying an instance keeps the agreement exactly if no live instance is named. -/
theorem destroyInstance_agree_iff {handle : Nat} {circumstances : Circumstances}
    {world world' : World} {result : XrResult} (agree : Agree world)
    (ran : destroyInstance handle circumstances world = some (result, world')) :
    Agree world' ↔ ∀ one ∈ world.server.runtime.live, one.handle ≠ handle := by
  unfold destroyInstance at ran
  obtain ⟨middle, synchronized, ran⟩ := Option.bind_eq_some_iff.mp ran
  have kept := getTimeOffset_instances synchronized
  obtain ⟨⟨reply, after⟩, exchanged, returned⟩ := Option.bind_eq_some_iff.mp ran
  simp only [Option.pure_def, Option.some.injEq, Prod.mk.injEq] at returned
  obtain ⟨-, rfl⟩ := returned
  obtain ⟨taken, replies⟩ := exchange_eq_some exchanged
  rcases Server.dispatch_destroy taken with nothing | seen
  · rw [nothing] at replies
    contradiction
  have instances := congrArg Prod.fst seen
  change after.instances = _ at instances
  rw [kept] at instances
  by_cases named : handle = world.client.savedInstance
  · have forgotten : after.savedInstance = 0 := by
      have saved := congrArg Server.Record.saved instances
      simpa [Server.Record.destroyed, Server.State.instances, agree.server, named] using saved
    have loader : after.loaderInstance = world.server.loaderInstance := by
      have loader := congrArg Server.Record.loader instances
      simpa [Server.Record.destroyed, Server.State.instances, agree.server, named] using loader
    by_cases none : world.client.savedInstance = 0
    · have empty : world.server.runtime.live = [] := by
        have listed := agree.live
        rw [if_pos none] at listed
        exact List.map_eq_nil_iff.mp listed
      have stays : after.runtime.live = [] := by
        have runtime := congrArg (fun record : Server.Record => record.runtime.live) instances
        simp only [Server.Record.destroyed, Server.State.instances, agree.server, named,
          if_true] at runtime
        rw [runtime]
        split
        · simp [Server.Runtime.destroy, empty]
        · exact empty
      have still : Agree ⟨world.client, after⟩ := by
        constructor
        · exact forgotten.trans none.symm
        · exact loader.trans agree.loader
        · simp [stays, none]
        · have synchronization := agree.synchronization
          rw [empty] at synchronization
          rw [stays]
          exact synchronization
      exact ⟨fun _ => by simp [empty], fun _ => still⟩
    · constructor
      · intro agrees
        exact absurd (forgotten.symm.trans agrees.server).symm none
      · intro spared
        obtain ⟨one, live, same⟩ := agree.saved_live none
        exact absurd (same.trans named.symm) (spared one live)
  · have unchanged : after.instances = world.server.instances := by
      rw [instances, Server.Record.destroyed, if_neg]
      exact fun same => named (same.trans agree.server)
    constructor
    · intro _ one live same
      exact named (same.symm.trans (agree.handle_eq live).1)
    · exact fun _ => agree.of_instances unchanged

/-- One call keeps the agreement exactly if it spares the live instance. -/
theorem step_agree_iff {world world' : World} {call : Call} (agree : Agree world)
    (taken : (call.perform world).map Prod.snd = some world') :
    Agree world' ↔ Spares world call := by
  obtain ⟨⟨result, after⟩, ran, rfl⟩ := Option.map_eq_some_iff.mp taken
  cases call with
  | create createInfo circumstances =>
    exact ⟨fun _ => trivial, fun _ => createInstance_agree agree ran⟩
  | destroy handle circumstances => exact destroyInstance_agree_iff agree ran

/-- A client and a server agree at first exactly if `saved_instance` of the server happens to be
`XR_NULL_HANDLE`. -/
theorem init_agree_iff (client : ClientState) (answers : Answers) (modules : List Module)
    (savedInstance : Nat) :
    Agree (lifecycle client answers modules savedInstance).init ↔ savedInstance = 0 := by
  have instances := Server.construct_instances answers modules savedInstance
  simp only [Server.State.instances, Server.Record.mk.injEq] at instances
  obtain ⟨saved, loader, runtime⟩ := instances
  constructor
  · intro agree
    exact saved.symm.trans agree.server
  · rintro rfl
    constructor
    · exact saved
    · exact loader
    · simp [lifecycle, runtime]
    · simp [lifecycle, runtime]

/-- For every sequence of calls that return: the client, the server, the function loader and the
runtime agree on the live instance before, between and after the calls exactly if the uninitialized
`saved_instance` of the server starts as `XR_NULL_HANDLE` and no call destroys a live instance. -/
theorem instance_records_agree_iff (client : ClientState) (answers : Answers)
    (modules : List Module) (savedInstance : Nat) {calls : List Call} {world : World}
    (ran : (lifecycle client answers modules savedInstance).run
      (lifecycle client answers modules savedInstance).init calls = some world) :
    ((lifecycle client answers modules savedInstance).Along (fun world _ => Agree world)
        (lifecycle client answers modules savedInstance).init calls ∧ Agree world) ↔
      savedInstance = 0 ∧ (lifecycle client answers modules savedInstance).Along Spares
        (lifecycle client answers modules savedInstance).init calls := by
  have first := init_agree_iff client answers modules savedInstance
  have kept (agree : Agree (lifecycle client answers modules savedInstance).init) :=
    (lifecycle client answers modules savedInstance).along_holds_iff
      (fun _ _ _ agree taken => step_agree_iff agree taken) agree ran
  constructor
  · rintro ⟨along, last⟩
    have agree : Agree (lifecycle client answers modules savedInstance).init := by
      cases calls with
      | nil =>
        obtain rfl := Option.some.inj ran
        exact last
      | cons call rest => exact along.1
    exact ⟨first.mp agree, (kept agree).mp ⟨along, last⟩⟩
  · rintro ⟨null, spares⟩
    exact (kept (first.mpr null)).mpr spares

/-- A client that offers no extensions. -/
def plainClient : ClientState where
  currentApiVersion := 1
  availableExtensions := []

/-- Everything succeeds and no synchronization is due. -/
def calm : Circumstances where
  due := false
  rounds := fun _ => Server.succeeding
  answers := Server.succeeding

/-- An application creates an instance and passes a wrong handle to `xrDestroyInstance`. -/
def createThenMiss : List Call := [.create ⟨1, []⟩ calm, .destroy 6 calm]

/-- All records agree throughout. -/
theorem instance_records_agree_miss :
    ∃ world, (lifecycle plainClient Server.succeeding [.vulkan] 0).run
        (lifecycle plainClient Server.succeeding [.vulkan] 0).init createThenMiss = some world ∧
      (lifecycle plainClient Server.succeeding [.vulkan] 0).Along (fun world _ => Agree world)
        (lifecycle plainClient Server.succeeding [.vulkan] 0).init createThenMiss ∧
      Agree world := by
  have ran : ((lifecycle plainClient Server.succeeding [.vulkan] 0).run
      (lifecycle plainClient Server.succeeding [.vulkan] 0).init createThenMiss).isSome = true := by
    decide
  obtain ⟨world, ran⟩ := Option.isSome_iff_exists.mp ran
  have spares : (lifecycle plainClient Server.succeeding [.vulkan] 0).Along Spares
      (lifecycle plainClient Server.succeeding [.vulkan] 0).init createThenMiss := by
    decide
  exact ⟨world, ran, (instance_records_agree_iff _ _ _ _ ran).mpr ⟨rfl, spares⟩⟩

/-- After the only instance has been destroyed the client and the loader still hold it. -/
theorem destroyed_instance_remains :
    ¬∀ (client : ClientState) (answers : Answers) (modules : List Module) (savedInstance : Nat)
      (calls : List Call) (world : World),
      (lifecycle client answers modules savedInstance).run
        (lifecycle client answers modules savedInstance).init calls = some world →
      Agree world := by
  intro always
  have ran : ((lifecycle plainClient Server.succeeding [.vulkan] 0).run
      (lifecycle plainClient Server.succeeding [.vulkan] 0).init
        [.create ⟨1, []⟩ calm, .destroy 5 calm]).map (fun world => decide (Agree world)) =
      some false := by
    decide
  obtain ⟨world, ran, apart⟩ := Option.map_eq_some_iff.mp ran
  exact of_decide_eq_false apart (always _ _ _ _ _ _ ran)

/-- No call clears the client's `saved_instance`. -/
theorem perform_saved {world world' : World} {call : Call} {result : XrResult}
    (saved : world.client.savedInstance ≠ 0)
    (ran : call.perform world = some (result, world')) : world'.client = world.client := by
  cases call with
  | create createInfo circumstances =>
    simp only [Call.perform, createInstance, saved, ne_eq, not_false_eq_true, if_true,
      Option.some.injEq, Prod.mk.injEq] at ran
    rw [← ran.2]
  | destroy handle circumstances =>
    obtain ⟨middle, _, ran⟩ := Option.bind_eq_some_iff.mp ran
    obtain ⟨⟨reply, after⟩, _, returned⟩ := Option.bind_eq_some_iff.mp ran
    simp only [Option.pure_def, Option.some.injEq, Prod.mk.injEq] at returned
    rw [← returned.2]

/-- Once an instance has been created, `xrCreateInstance` is refused after every further sequence of
calls, also when that instance is long gone. -/
theorem create_refused {client : ClientState} {answers : Answers} {modules : List Module}
    {savedInstance : Nat} {calls : List Call} {world world' : World}
    (saved : world.client.savedInstance ≠ 0)
    (ran : (lifecycle client answers modules savedInstance).run world calls = some world')
    (createInfo : InstanceCreateInfo) (circumstances : Circumstances) :
    createInstance createInfo circumstances world' = some (.limitReached, world') := by
  induction calls generalizing world with
  | nil =>
    obtain rfl := Option.some.inj ran
    simp [createInstance, saved]
  | cons call rest ih =>
    obtain ⟨middle, taken, ran⟩ := Option.bind_eq_some_iff.mp ran
    obtain ⟨⟨result, after⟩, performed, rfl⟩ := Option.map_eq_some_iff.mp taken
    exact ih (perform_saved saved performed ▸ saved) ran

end XrTransport.Client
