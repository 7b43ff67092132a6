import XrTransport.Client.Entry
import XrTransport.Foundation.Layers

/-!
# The layers of the function table

`xrNegotiateLoaderRuntimeInterface` fills the function table with the generated stubs and puts the
functions of the client and of its modules over them. What `xrGetInstanceProcAddr` then returns
leads through all layers of the name, the last first, down to the stub. The function does not expect
to be called again: a second negotiation makes every layer lead back to itself.
-/
namespace XrTransport.Client.Entry

/-- `XrNegotiateLoaderInfo`. -/
structure NegotiateLoaderInfo where
  /-- `structType`. -/
  structType : Nat
  /-- `structVersion`. -/
  structVersion : Nat
  /-- `structSize`. -/
  structSize : Nat
  /-- `minInterfaceVersion`. -/
  minInterfaceVersion : Nat
  /-- `maxInterfaceVersion`. -/
  maxInterfaceVersion : Nat
  /-- `minApiVersion`. -/
  minApiVersion : Nat
  /-- `maxApiVersion`. -/
  maxApiVersion : Nat
  deriving DecidableEq

/-- `XrNegotiateRuntimeRequest`, as the loader passes it. -/
structure NegotiateRuntimeRequest where
  /-- `structType`. -/
  structType : Nat
  /-- `structVersion`. -/
  structVersion : Nat
  /-- `structSize`. -/
  structSize : Nat
  deriving DecidableEq

/-- What the headers define for the negotiation. -/
structure LoaderConstants where
  /-- `XR_LOADER_INTERFACE_STRUCT_LOADER_INFO`. -/
  loaderInfo : Nat
  /-- `XR_LOADER_INFO_STRUCT_VERSION`. -/
  loaderInfoVersion : Nat
  /-- `sizeof(XrNegotiateLoaderInfo)`. -/
  loaderInfoSize : Nat
  /-- `XR_LOADER_INTERFACE_STRUCT_RUNTIME_REQUEST`. -/
  runtimeRequest : Nat
  /-- `XR_RUNTIME_INFO_STRUCT_VERSION`. -/
  runtimeInfoVersion : Nat
  /-- `sizeof(XrNegotiateRuntimeRequest)`. -/
  runtimeRequestSize : Nat
  /-- `XR_CURRENT_LOADER_API_LAYER_VERSION`. -/
  loaderApiLayerVersion : Nat
  /-- `XR_CURRENT_API_VERSION`. -/
  apiVersion : Nat
  deriving DecidableEq

/-- What is linked into the client, with modules that are linked statically. -/
structure Linked (Pfn Variable : Type) where
  /-- The constants of the headers. -/
  constants : LoaderConstants
  /-- The platform of the build. -/
  platform : Platform
  /-- The names and the stubs that `init_with_rpc_functions` emplaces. -/
  rpcFunctions : List (String × Pfn)
  /-- The function `..Impl` of the client for a name. -/
  implementation : String → Pfn
  /-- The variable `.._next` for a name. -/
  next : String → Variable
  /-- The functions of each module. -/
  modules : List (List (Layer String Pfn Variable))

/-- What the negotiation writes to the request. -/
structure NegotiatedRuntime (Pfn : Type) where
  /-- `getInstanceProcAddr`. -/
  getInstanceProcAddr : Pfn
  /-- `runtimeInterfaceVersion`. -/
  runtimeInterfaceVersion : Nat
  /-- `runtimeApiVersion`. -/
  runtimeApiVersion : Nat
  deriving DecidableEq

variable {Pfn Variable : Type}

/-- Whether the negotiation goes on after its checks. -/
def Linked.accepts (linked : Linked Pfn Variable)
    (call : Option NegotiateLoaderInfo × Option NegotiateRuntimeRequest) : Bool :=
  match call with
  | (some info, some request) =>
    !(info.structType != linked.constants.loaderInfo ||
      info.structVersion != linked.constants.loaderInfoVersion ||
      info.structSize != linked.constants.loaderInfoSize ||
      request.structType != linked.constants.runtimeRequest ||
      request.structVersion != linked.constants.runtimeInfoVersion ||
      request.structSize != linked.constants.runtimeRequestSize ||
      decide (info.minInterfaceVersion > linked.constants.loaderApiLayerVersion) ||
      decide (info.maxInterfaceVersion < linked.constants.loaderApiLayerVersion) ||
      decide (info.minApiVersion > linked.constants.apiVersion) ||
      decide (info.maxApiVersion < linked.constants.apiVersion))
  | _ => false

/-- How a negotiation ends. -/
structure Negotiation (Pfn Variable : Type) where
  /-- The result. -/
  result : XrResult
  /-- The function table and the variables afterwards. -/
  functions : Layered String Pfn Variable
  /-- What is written to the request. -/
  written : Option (NegotiatedRuntime Pfn) := none

/-- `emplace` of names with their functions: a name that is there keeps its function. -/
def emplaceFunctions (table : String → Option Pfn) (functions : List (String × Pfn)) :
    String → Option Pfn :=
  functions.foldl (fun table entry =>
    if (table entry.1).isSome then table else Function.update table entry.1 (some entry.2)) table

/-- `init_with_rpc_functions`. -/
def initWithRpcFunctions (linked : Linked Pfn Variable) (t : Layered String Pfn Variable) :
    Layered String Pfn Variable :=
  { t with table := emplaceFunctions t.table linked.rpcFunctions }

/-- What `emplace` adds to a table. -/
theorem emplaceFunctions_eq (functions : List (String × Pfn)) (table : String → Option Pfn)
    (name : String) :
    emplaceFunctions table functions name = (table name).or (functions.lookup name) := by
  induction functions generalizing table with
  | nil => exact Option.or_none.symm
  | cons entry rest ih =>
    rw [emplaceFunctions, List.foldl_cons, ← emplaceFunctions, ih, List.lookup_cons]
    by_cases same : name = entry.1
    · rw [same]
      cases present : table entry.1 with
      | none =>
        have written : Function.update table entry.1 (some entry.2) entry.1 = some entry.2 :=
          Function.update_self _ _ _
        rw [if_neg (by simp), written, beq_self_eq_true]
        rfl
      | some function =>
        rw [if_pos (by simp), present, Option.some_or, Option.some_or]
    · have different : (name == entry.1) = false := beq_eq_false_iff_ne.mpr same
      rw [different]
      dsimp only
      split
      · rfl
      · rw [Function.update_of_ne same]

/-- Names that are all there keep their functions. -/
theorem emplaceFunctions_of_present {functions : List (String × Pfn)}
    {table : String → Option Pfn} (present : ∀ entry ∈ functions, (table entry.1).isSome) :
    emplaceFunctions table functions = table := by
  funext name
  rw [emplaceFunctions_eq]
  cases there : table name with
  | some function => rfl
  | none =>
    cases found : functions.lookup name with
    | none => rfl
    | some function =>
      obtain ⟨before, after, split, _⟩ := List.lookup_eq_some_iff.mp found
      have member : (name, function) ∈ functions := by
        rw [split]
        exact List.mem_append_right _ List.mem_cons_self
      have known := present _ member
      rw [there] at known
      exact absurd known Bool.false_ne_true

/-- The table with nothing but the stubs. -/
def Linked.stubs (linked : Linked Pfn Variable) : Layered String Pfn Variable :=
  initWithRpcFunctions linked ⟨fun _ => none, fun _ => none⟩

/-- Without layers a name has its stub. -/
theorem stubs_table (linked : Linked Pfn Variable) (name : String) :
    linked.stubs.table name = linked.rpcFunctions.lookup name := by
  rw [Linked.stubs, initWithRpcFunctions]
  exact emplaceFunctions_eq _ _ _

/-- The names that the client itself adds a layer to, in order. -/
def builtInNames : Platform → List String
  | .windows => ["xrGetInstanceProcAddr", "xrEnumerateInstanceExtensionProperties",
      "xrCreateInstance", "xrPollEvent", "xrConvertWin32PerformanceCounterToTimeKHR",
      "xrConvertTimeToWin32PerformanceCounterKHR", "xrtransportGetTransport"]
  | .linux | .android => ["xrGetInstanceProcAddr", "xrEnumerateInstanceExtensionProperties",
      "xrCreateInstance", "xrPollEvent", "xrConvertTimespecTimeToTimeKHR",
      "xrConvertTimeToTimespecTimeKHR", "xrtransportGetTransport"]

/-- The layers of the client itself. -/
def Linked.builtIn (linked : Linked Pfn Variable) : List (Layer String Pfn Variable) :=
  (builtInNames linked.platform).map fun name =>
    ⟨name, linked.implementation name, linked.next name⟩

/-- All layers, in the order they are added. -/
def Linked.layers (linked : Linked Pfn Variable) : List (Layer String Pfn Variable) :=
  linked.builtIn ++ linked.modules.flatten

/-- Every layer has a variable of its own, and a stub has none. -/
structure Linked.Proper (linked : Linked Pfn Variable) (ownVariable : Pfn → Option Variable) :
    Prop where
  /-- No two layers save to one variable. -/
  distinct : (linked.layers.map Layer.saves).Nodup
  /-- The function of a layer calls down through the variable that the layer saves to. -/
  owned : ∀ layer ∈ linked.layers, ownVariable layer.function = some layer.saves
  /-- A stub does not call down. -/
  stubs : ∀ stub ∈ linked.rpcFunctions, ownVariable stub.2 = none

variable {linked : Linked Pfn Variable}

/-- Stubs do not call down. -/
theorem Linked.Proper.bottom {ownVariable : Pfn → Option Variable}
    (proper : linked.Proper ownVariable) (name : String) (function : Pfn)
    (found : linked.stubs.table name = some function) : ownVariable function = none := by
  rw [stubs_table] at found
  obtain ⟨before, after, split, _⟩ := List.lookup_eq_some_iff.mp found
  have member : (name, function) ∈ linked.rpcFunctions := by
    rw [split]
    exact List.mem_append_right _ List.mem_cons_self
  exact proper.stubs _ member

variable [DecidableEq Variable]

/-- `layer_built_in_functions`. -/
def layerBuiltInFunctions (linked : Linked Pfn Variable) (t : Layered String Pfn Variable) :
    Layered String Pfn Variable :=
  linked.builtIn.foldl Layered.add t

/-- `layer_module_functions`. -/
def layerModuleFunctions (linked : Linked Pfn Variable) (t : Layered String Pfn Variable) :
    Layered String Pfn Variable :=
  linked.modules.foldl (fun t module => module.foldl Layered.add t) t

/-- `xrNegotiateLoaderRuntimeInterface`. -/
def negotiateLoaderRuntimeInterface (linked : Linked Pfn Variable)
    (call : Option NegotiateLoaderInfo × Option NegotiateRuntimeRequest)
    (t : Layered String Pfn Variable) : Negotiation Pfn Variable :=
  if !linked.accepts call then { result := .initializationFailed, functions := t }
  else
    { result := .success
      functions :=
        layerModuleFunctions linked (layerBuiltInFunctions linked (initWithRpcFunctions linked t))
      written := some {
        getInstanceProcAddr := linked.implementation "xrGetInstanceProcAddr"
        runtimeInterfaceVersion := linked.constants.loaderApiLayerVersion
        runtimeApiVersion := linked.constants.apiVersion } }

/-- The function table and the variables after the loader has called some times. -/
def negotiated (linked : Linked Pfn Variable)
    (calls : List (Option NegotiateLoaderInfo × Option NegotiateRuntimeRequest)) :
    Layered String Pfn Variable :=
  calls.foldl (fun t call => (negotiateLoaderRuntimeInterface linked call t).functions)
    ⟨fun _ => none, fun _ => none⟩

/-- The nested loops over the functions of the modules add all layers. -/
theorem layer_functions_eq (t : Layered String Pfn Variable) :
    layerModuleFunctions linked (layerBuiltInFunctions linked t) = t.addAll linked.layers := by
  have flat : ∀ (modules : List (List (Layer String Pfn Variable)))
      (t : Layered String Pfn Variable),
      modules.foldl (fun t module => module.foldl Layered.add t) t = t.addAll modules.flatten := by
    intro modules
    induction modules with
    | nil => exact fun _ => rfl
    | cons module rest ih =>
      intro t
      rw [List.foldl_cons, ih, List.flatten_cons, Layered.addAll_append]
      rfl
  rw [layerModuleFunctions, flat, Linked.layers, Layered.addAll_append]
  rfl

/-- The stubs are not emplaced again. -/
theorem initWithRpcFunctions_again (layers : List (Layer String Pfn Variable)) :
    initWithRpcFunctions linked (linked.stubs.addAll layers) = linked.stubs.addAll layers := by
  rw [initWithRpcFunctions, emplaceFunctions_of_present]
  intro entry member
  rw [Layered.table_addAll, stubs_table, Option.isSome_or]
  have found : (linked.rpcFunctions.lookup entry.1).isSome := by
    rw [List.lookup_isSome_iff]
    exact ⟨entry, member, beq_self_eq_true _⟩
  rw [found, Bool.or_true]

/-- Every negotiation that goes on adds all layers once more. -/
theorem negotiated_eq (calls : List (Option NegotiateLoaderInfo × Option NegotiateRuntimeRequest)) :
    negotiated linked calls =
      if (calls.filter linked.accepts).length = 0 then ⟨fun _ => none, fun _ => none⟩
      else linked.stubs.addAll
        (List.replicate (calls.filter linked.accepts).length linked.layers).flatten := by
  induction calls using List.reverseRecOn with
  | nil => rfl
  | append_singleton calls call ih =>
    rw [negotiated, List.foldl_concat, ← negotiated, ih, negotiateLoaderRuntimeInterface]
    cases accepted : linked.accepts call with
    | false =>
      have same : (calls ++ [call]).filter linked.accepts = calls.filter linked.accepts := by
        rw [List.filter_append, List.filter_cons_of_neg (by simp [accepted]), List.filter_nil,
          List.append_nil]
      rw [same]
      rfl
    | true =>
      have more : ((calls ++ [call]).filter linked.accepts).length =
          (calls.filter linked.accepts).length + 1 := by
        rw [List.filter_append, List.filter_cons_of_pos (by simpa using accepted),
          List.filter_nil, List.length_append, List.length_singleton]
      rw [more, if_neg (Nat.succ_ne_zero _), List.replicate_succ', List.flatten_concat,
        Layered.addAll_append]
      show layerModuleFunctions linked (layerBuiltInFunctions linked (initWithRpcFunctions linked
        _)) = _
      rw [layer_functions_eq]
      congr 1
      split
      case isTrue none =>
        rw [none]
        rfl
      case isFalse some => exact initWithRpcFunctions_again _

/-- After one negotiation calls go through the layers of a name and end at its stub. -/
theorem descends_negotiated {ownVariable : Pfn → Option Variable}
    (proper : linked.Proper ownVariable)
    {calls : List (Option NegotiateLoaderInfo × Option NegotiateRuntimeRequest)}
    (once : (calls.filter linked.accepts).length = 1) (name : String) :
    (negotiated linked calls).Descends ownVariable ((negotiated linked calls).table name)
      (layersOn linked.layers name ++ (linked.rpcFunctions.lookup name).toList) := by
  have down := Layered.descends_addAll proper.distinct proper.owned proper.bottom name
  rw [stubs_table] at down
  have same : negotiated linked calls = linked.stubs.addAll linked.layers := by
    rw [negotiated_eq, once, if_neg Nat.one_ne_zero, List.replicate_one, List.flatten_singleton]
  rw [same]
  exact down

/-- The functions of a client on Linux: stubs, and those that are put over them. -/
inductive Pointer where
  /-- The stub of a name. -/
  | rpc (name : String)
  /-- The function of the client for a name. -/
  | client (name : String)
  /-- The function of the Vulkan module for a name. -/
  | vulkan (name : String)
  deriving DecidableEq

/-- The variable that a function calls down through. -/
def Pointer.next : Pointer → Option Pointer
  | .rpc _ => none
  | pointer => some pointer

/-- `functions` of the Vulkan module. -/
def vulkanFunctions : List String :=
  ["xrGetVulkanInstanceExtensionsKHR", "xrGetVulkanDeviceExtensionsKHR",
    "xrGetVulkanGraphicsDeviceKHR", "xrGetVulkanGraphicsRequirementsKHR",
    "xrCreateVulkanInstanceKHR", "xrCreateVulkanDeviceKHR", "xrGetVulkanGraphicsDevice2KHR",
    "xrGetVulkanGraphicsRequirements2KHR", "xrCreateSwapchain", "xrDestroySwapchain",
    "xrEnumerateSwapchainImages", "xrAcquireSwapchainImage", "xrWaitSwapchainImage",
    "xrReleaseSwapchainImage", "xrCreateSession", "xrDestroySession"]

/-- A client with both modules; the handle exchange adds no layers. -/
def linuxClient : Linked Pointer Pointer where
  constants := ⟨1, 1, 40, 3, 1, 40, 1, 281479271677952⟩
  platform := .linux
  rpcFunctions := ["xrPollEvent", "xrCreateSession", "xrEndFrame"].map fun name =>
    (name, .rpc name)
  implementation := .client
  next := .client
  modules := [[], vulkanFunctions.map fun name => ⟨name, .vulkan name, .vulkan name⟩]

/-- The layers of the client and of its modules have a variable each. -/
theorem proper_linuxClient : linuxClient.Proper Pointer.next := by
  refine ⟨by decide, by decide, ?_⟩
  intro stub member
  obtain ⟨name, _, rfl⟩ := List.mem_map.mp member
  rfl

/-- What a loader passes. -/
def loaderCall : Option NegotiateLoaderInfo × Option NegotiateRuntimeRequest :=
  (some ⟨1, 1, 40, 1, 1, 0, 281479271677952⟩, some ⟨3, 1, 40⟩)

/-- That client after one negotiation. -/
def linuxLoaded : Loaded Pointer where
  platform := .linux
  currentApiVersion := 281479271677952
  availableExtensions := ∅
  modules := []
  coreFunctions := ["xrCreateSession"]
  getFunction := (negotiated linuxClient [loaderCall]).table
  getTransport := .client "xrtransportGetTransport"

end XrTransport.Client.Entry
