import Mathlib.Data.Finset.Insert
import XrTransport.Client.AvailableExtensions

/-!
# The entry points of the client

`xrGetInstanceProcAddrImpl` answers from `available_functions`, which `xrCreateInstanceImpl` fills
before it calls the server and clears when that call fails. On Android the same function takes a
struct out of the application's chain. What a failed call leaves behind is compared with the state
before it.
-/
namespace XrTransport.Client.Entry

/-- `XrBaseOutStructure`, a struct in the chain of the application. -/
structure BaseOutStructure where
  /-- `type`. -/
  type : Nat
  /-- Where the struct lies. -/
  address : Nat
deriving DecidableEq, Repr

/-- `XR_TYPE_INSTANCE_CREATE_INFO_ANDROID_KHR`. -/
def instanceCreateInfoAndroid : Nat := 1000008000

/-- `XrInstanceCreateInfo`, with the chain that starts at `next`. -/
structure CreateInfo extends InstanceCreateInfo where
  /-- The chain. -/
  next : List BaseOutStructure
deriving DecidableEq, Repr

/-- What is settled before the application calls: the build, the modules and the tables. -/
structure Loaded (Pfn : Type) where
  /-- The platform of the build. -/
  platform : Platform
  /-- `XR_CURRENT_API_VERSION`. -/
  currentApiVersion : Nat
  /-- `available_extensions`. -/
  availableExtensions : Extensions
  /-- `modules`, each as the list of its extensions. -/
  modules : List (List ModuleExtension)
  /-- `core_functions`. -/
  coreFunctions : List String
  /-- The function table. -/
  getFunction : String → Option Pfn
  /-- `xrtransportGetTransport`. -/
  getTransport : Pfn

/-- The names that a null instance can ask for. -/
def bootstrap : Finset String :=
  {"xrEnumerateInstanceExtensionProperties", "xrEnumerateApiLayerProperties", "xrCreateInstance"}

/-- The globals that `xrCreateInstanceImpl` writes. -/
structure Globals where
  /-- `available_functions`. -/
  availableFunctions : Finset String := bootstrap
  /-- `saved_instance`. -/
  savedInstance : Nat := 0
  /-- `synchronization_enabled`. -/
  synchronizationEnabled : Bool := false
deriving DecidableEq

/-- What `xrGetInstanceProcAddr` returns and writes. -/
structure ProcAddr (Pfn : Type) where
  /-- The result. -/
  result : XrResult
  /-- `*function`, if it is written. -/
  written : Option (Option Pfn) := none
deriving DecidableEq, Repr

variable {Pfn : Type}

/-- `xrGetInstanceProcAddrImpl`; either pointer may be null. -/
def getInstanceProcAddr (loaded : Loaded Pfn) (globals : Globals) (handle : Nat)
    (name : Option String) (function : Bool) : ProcAddr Pfn :=
  if !function then { result := .handleInvalid }
  else
    match name with
    | none => { result := .functionUnsupported }
    | some name =>
      if name = "xrtransportGetTransport" then
        { result := .success, written := some (some loaded.getTransport) }
      else if handle = 0 ∧ name ∉ bootstrap then
        { result := .handleInvalid, written := some none }
      else if name ∉ globals.availableFunctions then { result := .functionUnsupported }
      else
        match loaded.getFunction name with
        | some pfn => { result := .success, written := some (some pfn) }
        | none => { result := .functionUnsupported }

/-- The loop of `remove_from_chain`, from a node on: the struct it returns and the chain it leaves.
-/
def removeFromChainFrom (targetType : Nat) (found : Option BaseOutStructure) :
    List BaseOutStructure → Option BaseOutStructure × List BaseOutStructure
  | [] => (found, [])
  | node :: rest =>
    if node.type = targetType then
      -- The first one is returned, and all of them are taken out.
      removeFromChainFrom targetType (found <|> some node) rest
    else
      let (result, left) := removeFromChainFrom targetType found rest
      (result, node :: left)

/-- `remove_from_chain`. -/
def removeFromChain (targetType : Nat) (chain : List BaseOutStructure) :
    Option BaseOutStructure × List BaseOutStructure :=
  removeFromChainFrom targetType none chain

/-- The block that removes platform structs from the chain. -/
def removePlatformStructs (platform : Platform) (chain : List BaseOutStructure) :
    Option BaseOutStructure × List BaseOutStructure :=
  match platform with
  | .android => removeFromChain instanceCreateInfoAndroid chain
  | .windows | .linux => (none, chain)

/-- `available_functions.emplace` for each of some names. -/
def emplaceNames (functions : Finset String) (names : List String) : Finset String :=
  names.foldl (fun functions name => insert name functions) functions

/-- The loop over the enabled extensions and the one over the core functions. -/
def populate (loaded : Loaded Pfn) (createInfo : CreateInfo) (functions : Finset String) :
    Finset String :=
  let extended := createInfo.enabledExtensions.foldl (fun functions name =>
    match loaded.availableExtensions.lookup name with
    | some info => emplaceNames functions info.functionNames
    | none => functions) functions
  emplaceNames extended loaded.coreFunctions

/-- How `xrCreateInstanceImpl` ends. -/
structure Created where
  /-- The result. -/
  result : XrResult
  /-- The globals afterwards. -/
  globals : Globals
  /-- The application's chain afterwards. -/
  next : List BaseOutStructure
  /-- The instance that each module's `on_instance` is called with. -/
  notified : List Nat := []
deriving DecidableEq

/-- `xrCreateInstanceImpl`. The stub `rpc::xrCreateInstance` gives a result and writes an
instance. -/
def createInstance (loaded : Loaded Pfn) (globals : Globals) (createInfo : CreateInfo)
    (rpcCreateInstance : CreateInfo → XrResult × Nat) : Created :=
  if globals.savedInstance ≠ 0 then ⟨.limitReached, globals, createInfo.next, []⟩
  else if loaded.currentApiVersion < createInfo.apiVersion then
    ⟨.apiVersionUnsupported, globals, createInfo.next, []⟩
  else if ∃ name ∈ createInfo.enabledExtensions, name ∉ loaded.availableExtensions then
    ⟨.extensionNotPresent, globals, createInfo.next, []⟩
  else
    let populated := { globals with
      availableFunctions := populate loaded createInfo globals.availableFunctions }
    let (androidCreateInfo, next) := removePlatformStructs loaded.platform createInfo.next
    if loaded.platform = .android ∧ androidCreateInfo = none then
      ⟨.initializationFailed, populated, next, []⟩
    else
      let requested := createInfo.enabledExtensions.filter fun name =>
        name ∉ providedExtensions loaded.platform loaded.modules
      let (result, written) :=
        rpcCreateInstance { createInfo with enabledExtensions := requested, next := next }
      if result.succeeded then
        ⟨result, { populated with savedInstance := written, synchronizationEnabled := true }, next,
          loaded.modules.map fun _ => written⟩
      else ⟨result, { populated with availableFunctions := ∅ }, next, []⟩

/-- A call of `xrCreateInstance` has left no trace: not in the globals, not in the chain, and so
neither in the answers of `xrGetInstanceProcAddr` nor in a following call. -/
structure AsBefore (loaded : Loaded Pfn) (globals : Globals) (createInfo : CreateInfo)
    (created : Created) : Prop where
  /-- `available_functions`. -/
  functions : created.globals.availableFunctions = globals.availableFunctions
  /-- `saved_instance`. -/
  saved : created.globals.savedInstance = globals.savedInstance
  /-- The application's chain. -/
  chain : created.next = createInfo.next
  /-- Every name is answered as before. -/
  answers : ∀ handle name function,
    getInstanceProcAddr loaded created.globals handle name function =
      getInstanceProcAddr loaded globals handle name function
  /-- A following call does what it would have done. -/
  following : ∀ other rpcCreateInstance,
    createInstance loaded created.globals other rpcCreateInstance =
      createInstance loaded globals other rpcCreateInstance

/-- A core function, or a function of an extension that the application enables. -/
def Requested (loaded : Loaded Pfn) (createInfo : CreateInfo) (function : String) : Prop :=
  function ∈ loaded.coreFunctions ∨
    ∃ name ∈ createInfo.enabledExtensions, ∃ info ∈ loaded.availableExtensions.lookup name,
      function ∈ info.functionNames

/-- When a failing call leaves no trace. -/
inductive Traceless (loaded : Loaded Pfn) (globals : Globals) (createInfo : CreateInfo) : Prop where
  /-- The version is refused, before anything is written. -/
  | version (newer : loaded.currentApiVersion < createInfo.apiVersion)
  /-- An extension is refused, before anything is written. -/
  | absent (name : String) (enabled : name ∈ createInfo.enabledExtensions)
    (missing : name ∉ loaded.availableExtensions)
  /-- The struct of Android is missing, and every function populated was available already. -/
  | android (platform : loaded.platform = .android)
    (missing : ∀ node ∈ createInfo.next, node.type ≠ instanceCreateInfoAndroid)
    (available : ∀ function, Requested loaded createInfo function →
      function ∈ globals.availableFunctions)
  /-- The server is asked and there was nothing to clear or to take out. -/
  | empty (platform : loaded.platform ≠ .android) (nothing : globals.availableFunctions = ∅)

/-- The loop returns the first struct of the type, unless it had found one, and leaves the others.
-/
theorem removeFromChainFrom_eq {targetType : Nat} {found : Option BaseOutStructure}
    {chain : List BaseOutStructure} :
    removeFromChainFrom targetType found chain =
      (found <|> chain.find? (·.type = targetType), chain.filter (·.type ≠ targetType)) := by
  induction chain generalizing found with
  | nil => cases found <;> rfl
  | cons node rest ih =>
    unfold removeFromChainFrom
    by_cases same : node.type = targetType
    · rw [if_pos same, ih, List.find?_cons_of_pos (by simpa using same),
        List.filter_cons_of_neg (by simpa using same)]
      cases found <;> rfl
    · rw [if_neg same, ih, List.find?_cons_of_neg (by simpa using same),
        List.filter_cons_of_pos (by simpa using same)]

/-- The other structs are left. -/
theorem removeFromChain_left {targetType : Nat} {chain : List BaseOutStructure} :
    (removeFromChain targetType chain).2 = chain.filter (·.type ≠ targetType) := by
  rw [removeFromChain, removeFromChainFrom_eq]

/-- Nothing is returned exactly if the chain has no struct of the type. -/
theorem removeFromChain_eq_none_iff {targetType : Nat} {chain : List BaseOutStructure} :
    (removeFromChain targetType chain).1 = none ↔ ∀ node ∈ chain, node.type ≠ targetType := by
  rw [removeFromChain, removeFromChainFrom_eq]
  show chain.find? _ = none ↔ _
  rw [List.find?_eq_none]
  simp

/-- The chain stays as it is exactly then. -/
theorem removeFromChain_unchanged_iff {targetType : Nat} {chain : List BaseOutStructure} :
    (removeFromChain targetType chain).2 = chain ↔ ∀ node ∈ chain, node.type ≠ targetType := by
  rw [removeFromChain_left, List.filter_eq_self]
  simp

/-- On Android a chain changes exactly if a struct is returned. -/
theorem removePlatformStructs_android {chain : List BaseOutStructure} :
    (removePlatformStructs .android chain).2 = chain ↔
      (removePlatformStructs .android chain).1 = none :=
  removeFromChain_unchanged_iff.trans removeFromChain_eq_none_iff.symm

/-- Elsewhere it never does. -/
theorem removePlatformStructs_desktop {platform : Platform} {chain : List BaseOutStructure}
    (desktop : platform ≠ .android) : removePlatformStructs platform chain = (none, chain) := by
  cases platform with
  | windows => rfl
  | linux => rfl
  | android => exact absurd rfl desktop

/-- What a set of names holds after several have been put in. -/
theorem mem_emplaceNames {functions : Finset String} {names : List String} {name : String} :
    name ∈ emplaceNames functions names ↔ name ∈ functions ∨ name ∈ names := by
  induction names generalizing functions with
  | nil => simp [emplaceNames]
  | cons first rest ih =>
    show name ∈ emplaceNames (insert first functions) rest ↔ _
    rw [ih, Finset.mem_insert, List.mem_cons, or_assoc, or_left_comm]

/-- The populated set holds what it held before and what the application is to call. -/
theorem mem_populate {loaded : Loaded Pfn} {createInfo : CreateInfo} {functions : Finset String}
    {function : String} :
    function ∈ populate loaded createInfo functions ↔
      function ∈ functions ∨ Requested loaded createInfo function := by
  have extensions (names : List String) (functions : Finset String) :
      function ∈ names.foldl (fun functions name =>
          match loaded.availableExtensions.lookup name with
          | some info => emplaceNames functions info.functionNames
          | none => functions) functions ↔
        function ∈ functions ∨ ∃ name ∈ names,
          ∃ info ∈ loaded.availableExtensions.lookup name, function ∈ info.functionNames := by
    induction names generalizing functions with
    | nil => simp
    | cons first rest ih =>
      rw [List.foldl_cons, ih, List.exists_mem_cons_iff, ← or_assoc]
      apply or_congr_left
      cases found : loaded.availableExtensions.lookup first with
      | none => simp
      | some info => simp [mem_emplaceNames]
  rw [populate, mem_emplaceNames, extensions, Requested, or_assoc, or_comm (b := function ∈ _)]

/-- Populating changes nothing exactly if everything requested is there. -/
theorem populate_eq_self_iff {loaded : Loaded Pfn} {createInfo : CreateInfo}
    {functions : Finset String} :
    populate loaded createInfo functions = functions ↔
      ∀ function, Requested loaded createInfo function → function ∈ functions := by
  constructor
  · intro same function requested
    rw [← same, mem_populate]
    exact .inr requested
  · intro available
    ext function
    rw [mem_populate]
    exact ⟨fun either => either.elim id (available function), .inl⟩

/-- A local check that comes before anything is written. -/
def RefusedEarly (loaded : Loaded Pfn) (createInfo : CreateInfo) : Prop :=
  loaded.currentApiVersion < createInfo.apiVersion ∨
    ∃ name ∈ createInfo.enabledExtensions, name ∉ loaded.availableExtensions

/-- The check goes through the names. -/
instance (loaded : Loaded Pfn) (createInfo : CreateInfo) :
    Decidable (RefusedEarly loaded createInfo) :=
  inferInstanceAs (Decidable (_ ∨ _))

/-- What a failing call leaves behind when there is no instance. -/
inductive Fails (loaded : Loaded Pfn) (globals : Globals) (createInfo : CreateInfo) :
    Created → Prop where
  /-- Nothing. -/
  | early (code : XrResult) (refused : RefusedEarly loaded createInfo) :
    Fails loaded globals createInfo ⟨code, globals, createInfo.next, []⟩
  /-- The populated functions. -/
  | android (accepted : ¬RefusedEarly loaded createInfo) (platform : loaded.platform = .android)
    (missing : ∀ node ∈ createInfo.next, node.type ≠ instanceCreateInfoAndroid) :
    Fails loaded globals createInfo ⟨.initializationFailed, { globals with
      availableFunctions := populate loaded createInfo globals.availableFunctions },
      createInfo.next, []⟩
  /-- No functions, and a chain without the structs of Android. -/
  | server (accepted : ¬RefusedEarly loaded createInfo)
    (found : loaded.platform = .android →
      ∃ node ∈ createInfo.next, node.type = instanceCreateInfoAndroid)
    (code : XrResult) (next : List BaseOutStructure)
    (stripped : loaded.platform = .android →
      next = createInfo.next.filter (·.type ≠ instanceCreateInfoAndroid))
    (kept : loaded.platform ≠ .android → next = createInfo.next) :
    Fails loaded globals createInfo
      ⟨code, { globals with availableFunctions := ∅ }, next, []⟩

/-- Every failing call leaves one of these. -/
theorem createInstance_fails {loaded : Loaded Pfn} {globals : Globals} {createInfo : CreateInfo}
    {rpcCreateInstance : CreateInfo → XrResult × Nat} (null : globals.savedInstance = 0)
    (failed : (createInstance loaded globals createInfo rpcCreateInstance).result.succeeded =
      false) :
    Fails loaded globals createInfo
      (createInstance loaded globals createInfo rpcCreateInstance) := by
  revert failed
  rw [createInstance, if_neg (not_not.mpr null)]
  split
  next newer => exact fun _ => .early _ (.inl newer)
  next current =>
    split
    next absent => exact fun _ => .early _ (.inr absent)
    next present =>
      have accepted : ¬RefusedEarly loaded createInfo := not_or.mpr ⟨current, present⟩
      dsimp only
      split
      next missing =>
        intro _
        obtain ⟨platform, missing⟩ := missing
        rw [platform] at missing ⊢
        rw [removePlatformStructs_android.mpr missing]
        exact .android accepted platform (removeFromChain_eq_none_iff.mp missing)
      next asked =>
        split
        next succeeded =>
          intro failed
          exact absurd (succeeded.symm.trans failed) Bool.noConfusion
        next =>
          intro _
          apply Fails.server accepted
          · intro platform
            have found : (removePlatformStructs .android createInfo.next).1 ≠ none := by
              intro missing
              apply asked
              exact ⟨platform, platform ▸ missing⟩
            have typed := mt removeFromChain_eq_none_iff.mpr found
            simpa using typed
          · intro platform
            rw [platform]
            exact removeFromChain_left
          · intro platform
            rw [removePlatformStructs_desktop platform]

/-- A call leaves no trace exactly if it leaves the functions and the chain: nothing else that it
writes when it fails is read. -/
theorem asBefore_iff {loaded : Loaded Pfn} {globals : Globals} {createInfo : CreateInfo}
    {code : XrResult} {functions : Finset String} {next : List BaseOutStructure} :
    AsBefore loaded globals createInfo
        ⟨code, { globals with availableFunctions := functions }, next, []⟩ ↔
      functions = globals.availableFunctions ∧ next = createInfo.next := by
  constructor
  · intro before
    exact ⟨before.functions, before.chain⟩
  · rintro ⟨rfl, rfl⟩
    exact ⟨rfl, rfl, rfl, fun _ _ _ => rfl, fun _ _ => rfl⟩

/-- For every client without an instance, every create info and every answer of the server: a call
that fails leaves the client, the chain, the answers of `xrGetInstanceProcAddr` and every following
call as they were exactly if it is refused before the functions are populated, if populating them
adds nothing, or if there were none and the server is asked on another platform than Android. -/
theorem failed_create_leaves_no_trace_iff {loaded : Loaded Pfn} {globals : Globals}
    {createInfo : CreateInfo} {rpcCreateInstance : CreateInfo → XrResult × Nat}
    (null : globals.savedInstance = 0)
    (failed : (createInstance loaded globals createInfo rpcCreateInstance).result.succeeded =
      false) :
    AsBefore loaded globals createInfo
        (createInstance loaded globals createInfo rpcCreateInstance) ↔
      Traceless loaded globals createInfo := by
  have refusedEarly (accepted : ¬RefusedEarly loaded createInfo)
      (traceless : Traceless loaded globals createInfo) :
      (loaded.platform = .android ∧
        (∀ node ∈ createInfo.next, node.type ≠ instanceCreateInfoAndroid) ∧
        ∀ function, Requested loaded createInfo function →
          function ∈ globals.availableFunctions) ∨
      loaded.platform ≠ .android ∧ globals.availableFunctions = ∅ := by
    cases traceless with
    | version newer => exact absurd (.inl newer) accepted
    | absent name enabled missing => exact absurd (.inr ⟨name, enabled, missing⟩) accepted
    | android platform missing available => exact .inl ⟨platform, missing, available⟩
    | empty platform nothing => exact .inr ⟨platform, nothing⟩
  have fails := createInstance_fails null failed
  generalize createInstance loaded globals createInfo rpcCreateInstance = created at fails ⊢
  cases fails with
  | early code refused =>
    constructor
    · intro _
      rcases refused with newer | ⟨name, enabled, missing⟩
      · exact .version newer
      · exact .absent name enabled missing
    · exact fun _ => asBefore_iff.mpr ⟨rfl, rfl⟩
  | android accepted platform missing =>
    rw [asBefore_iff, populate_eq_self_iff]
    constructor
    · rintro ⟨available, -⟩
      exact .android platform missing available
    · intro traceless
      rcases refusedEarly accepted traceless with ⟨-, -, available⟩ | ⟨desktop, -⟩
      · exact ⟨available, rfl⟩
      · exact absurd platform desktop
  | server accepted found code next stripped kept =>
    rw [asBefore_iff]
    constructor
    · rintro ⟨nothing, same⟩
      apply Traceless.empty
      · intro platform
        obtain ⟨node, member, typed⟩ := found platform
        have left : node ∈ createInfo.next.filter (·.type ≠ instanceCreateInfoAndroid) := by
          rw [← stripped platform, same]
          exact member
        exact of_decide_eq_true (List.mem_filter.mp left).2 typed
      · exact nothing.symm
    · intro traceless
      rcases refusedEarly accepted traceless with ⟨platform, missing, -⟩ | ⟨desktop, nothing⟩
      · obtain ⟨node, member, typed⟩ := found platform
        exact absurd typed (missing node member)
      · exact ⟨nothing.symm, kept desktop⟩

/-- A client that serves one function. -/
def plainClient (platform : Platform) : Loaded Nat where
  platform := platform
  currentApiVersion := 1
  availableExtensions := ∅
  modules := []
  coreFunctions := ["xrCreateInstance"]
  getFunction := fun name => if name = "xrCreateInstance" then some 1 else none
  getTransport := 2

/-- A create info without extensions. -/
def plainCreateInfo (apiVersion : Nat) (next : List BaseOutStructure) : CreateInfo :=
  ⟨⟨apiVersion, []⟩, next⟩

/-- A server on which the call fails. -/
def failingServer : CreateInfo → XrResult × Nat := fun _ => (.runtimeFailure, 0)

/-- A version that is too new is refused without a trace. -/
theorem newer_version_leaves_no_trace :
    AsBefore (plainClient .linux) {} (plainCreateInfo 2 [])
      (createInstance (plainClient .linux) {} (plainCreateInfo 2 []) failingServer) :=
  (failed_create_leaves_no_trace_iff rfl rfl).mpr (.version (by decide))

/-- With no functions available, no name but that of the transport is answered. -/
theorem getInstanceProcAddr_failed {loaded : Loaded Pfn} {globals : Globals} {handle : Nat}
    {name : Option String} {function : Bool} (nothing : globals.availableFunctions = ∅)
    (other : name ≠ some "xrtransportGetTransport") :
    (getInstanceProcAddr loaded globals handle name function).result.succeeded = false := by
  unfold getInstanceProcAddr
  split
  · rfl
  · cases name with
    | none => rfl
    | some name =>
      have apart : name ≠ "xrtransportGetTransport" := fun same => other (congrArg some same)
      simp only [if_neg apart, nothing, Finset.notMem_empty, not_false_eq_true, if_true]
      split
      · rfl
      · rfl

/-- The refusals, and what is sent to the server, are those of `requestInstance`. -/
theorem createInstance_requests {loaded : Loaded Pfn} {globals : Globals}
    {client : ClientState} {createInfo : CreateInfo}
    {rpcCreateInstance : CreateInfo → XrResult × Nat}
    (version : client.currentApiVersion = loaded.currentApiVersion)
    (saved : client.savedInstance = globals.savedInstance) :
    (createInstance loaded globals createInfo rpcCreateInstance).result =
      match requestInstance loaded.platform loaded.modules loaded.availableExtensions client
        createInfo.toInstanceCreateInfo
        (removeFromChain instanceCreateInfoAndroid createInfo.next).1.isSome with
      | .error code => code
      | .ok sent => (rpcCreateInstance
          ⟨sent, (removePlatformStructs loaded.platform createInfo.next).2⟩).1 := by
  have missing : (loaded.platform = .android ∧
      (removePlatformStructs loaded.platform createInfo.next).1 = none) ↔
      (loaded.platform = .android ∧
        (!(removeFromChain instanceCreateInfoAndroid createInfo.next).1.isSome) = true) := by
    cases platform : loaded.platform with
    | windows => simp
    | linux => simp
    | android => simp [removePlatformStructs]
  simp only [createInstance, requestInstance, version, saved, missing]
  split
  · rfl
  split
  · rfl
  split
  · rfl
  split
  · rfl
  · split
    · rfl
    · rfl

/-- Everything but the available functions. -/
def Created.besidesFunctions (created : Created) : Created :=
  { created with globals := { created.globals with availableFunctions := ∅ } }

/-- The available functions have no influence on anything else. -/
theorem createInstance_besidesFunctions {loaded : Loaded Pfn} {globals : Globals}
    {functions : Finset String} {createInfo : CreateInfo}
    {rpcCreateInstance : CreateInfo → XrResult × Nat} :
    (createInstance loaded { globals with availableFunctions := functions } createInfo
        rpcCreateInstance).besidesFunctions =
      (createInstance loaded globals createInfo rpcCreateInstance).besidesFunctions := by
  simp only [createInstance]
  split
  · rfl
  split
  · rfl
  split
  · rfl
  split
  · rfl
  split
  · rfl
  · rfl

/-- A failing call withdraws what it has done, except that the struct of Android stays out of the
chain. -/
structure Withdrawn (loaded : Loaded Pfn) (globals : Globals) (createInfo : CreateInfo)
    (created : Created) : Prop where
  /-- `saved_instance`. -/
  saved : created.globals.savedInstance = globals.savedInstance
  /-- Synchronization is not enabled. -/
  synchronization : created.globals.synchronizationEnabled = globals.synchronizationEnabled
  /-- No module is told of an instance. -/
  notified : created.notified = []
  /-- The chain is as it was, except on Android. -/
  chain : loaded.platform ≠ .android → created.next = createInfo.next
  /-- There it has lost the structs of Android, unless the call is refused before. -/
  stripped : loaded.platform = .android → ¬RefusedEarly loaded createInfo →
    created.next = createInfo.next.filter (·.type ≠ instanceCreateInfoAndroid)
  /-- A call that is refused before leaves no trace. -/
  early : RefusedEarly loaded createInfo → AsBefore loaded globals createInfo created
  /-- When the server has been asked, nothing is callable that was not before. -/
  answers : (loaded.platform = .android →
      ∃ node ∈ createInfo.next, node.type = instanceCreateInfoAndroid) →
    ∀ handle name function pfn,
      (getInstanceProcAddr loaded created.globals handle name function).written =
        some (some pfn) →
      (getInstanceProcAddr loaded globals handle name function).written = some (some pfn)
  /-- A following call returns, sends and does what it would have done, whichever functions it
  makes available. -/
  following : ∀ other rpcCreateInstance,
    (createInstance loaded created.globals other rpcCreateInstance).besidesFunctions =
      (createInstance loaded globals other rpcCreateInstance).besidesFunctions

/-- With fewer functions available, fewer are returned. -/
theorem getInstanceProcAddr_mono {loaded : Loaded Pfn} {globals : Globals}
    {functions : Finset String} {handle : Nat} {name : Option String} {function : Bool} {pfn : Pfn}
    (fewer : functions ⊆ globals.availableFunctions)
    (answered : (getInstanceProcAddr loaded { globals with availableFunctions := functions } handle
      name function).written = some (some pfn)) :
    (getInstanceProcAddr loaded globals handle name function).written = some (some pfn) := by
  revert answered
  unfold getInstanceProcAddr
  split
  · exact id
  · cases name with
    | none => exact id
    | some name =>
      dsimp only
      split
      · exact id
      split
      · exact id
      split
      next missing =>
        intro answered
        cases answered
      next there =>
        rw [if_neg (not_not.mpr (fewer (not_not.mp there)))]
        exact id

/-- For every client without an instance, every create info and every answer of the server: a call
that fails is withdrawn. -/
theorem failed_create_withdrawn {loaded : Loaded Pfn} {globals : Globals}
    {createInfo : CreateInfo} {rpcCreateInstance : CreateInfo → XrResult × Nat}
    (null : globals.savedInstance = 0)
    (failed : (createInstance loaded globals createInfo rpcCreateInstance).result.succeeded =
      false) :
    Withdrawn loaded globals createInfo
      (createInstance loaded globals createInfo rpcCreateInstance) := by
  have fails := createInstance_fails null failed
  generalize createInstance loaded globals createInfo rpcCreateInstance = created at fails ⊢
  cases fails with
  | early code refused =>
    constructor
    · rfl
    · rfl
    · rfl
    · exact fun _ => rfl
    · exact fun _ accepted => absurd refused accepted
    · exact fun _ => asBefore_iff.mpr ⟨rfl, rfl⟩
    · exact fun _ _ _ _ _ answered => answered
    · exact fun _ _ => rfl
  | android accepted platform missing =>
    constructor
    · rfl
    · rfl
    · rfl
    · exact fun desktop => absurd platform desktop
    · intro _ _
      symm
      rw [List.filter_eq_self]
      simpa using missing
    · exact fun refused => absurd refused accepted
    · intro found
      obtain ⟨node, member, typed⟩ := found platform
      exact absurd typed (missing node member)
    · exact fun _ _ => createInstance_besidesFunctions
  | server accepted found code next stripped kept =>
    constructor
    · rfl
    · rfl
    · rfl
    · exact kept
    · exact fun platform _ => stripped platform
    · exact fun refused => absurd refused accepted
    · exact fun _ _ _ _ _ answered => getInstanceProcAddr_mono (Finset.empty_subset _) answered
    · exact fun _ _ => createInstance_besidesFunctions

/-- The chain with which an application on Android asks for an instance. -/
def androidChain : List BaseOutStructure := [⟨instanceCreateInfoAndroid, 4096⟩]

/-- When the server refuses the instance, the application's chain is left empty. -/
theorem failed_create_withdrawn_android :
    (createInstance (plainClient .android) {} (plainCreateInfo 1 androidChain)
      failingServer).next = androidChain.filter (·.type ≠ instanceCreateInfoAndroid) := by
  have withdrawn := @failed_create_withdrawn _ (plainClient .android) {}
    (plainCreateInfo 1 androidChain) failingServer rfl rfl
  exact withdrawn.stripped rfl (by decide)

/-- So the call has left a trace. -/
theorem failed_create_edits_chain :
    ¬∀ (loaded : Loaded Nat) (globals : Globals) (createInfo : CreateInfo)
      (rpcCreateInstance : CreateInfo → XrResult × Nat), globals.savedInstance = 0 →
      (createInstance loaded globals createInfo rpcCreateInstance).result.succeeded = false →
      AsBefore loaded globals createInfo
        (createInstance loaded globals createInfo rpcCreateInstance) := by
  intro always
  have before := always (plainClient .android) {} (plainCreateInfo 1 androidChain) failingServer
    rfl rfl
  exact absurd before.chain (by decide)

end XrTransport.Client.Entry
