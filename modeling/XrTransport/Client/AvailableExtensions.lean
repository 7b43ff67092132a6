import Mathlib.Data.List.AList
import XrTransport.Client.InstanceLifecycle

/-!
# Extensions

Which extensions the client advertises, and which of those that an application requests it sends to
the server. Advertised are those that the server reports and the build supports, those built into
the client, and those of its modules; sent are those that are not stripped as provided locally.
-/
namespace XrTransport.Client

/-- `ExtensionInfo`. -/
structure ExtensionInfo where
  /-- The version. -/
  version : Nat
  /-- The functions of the extension. -/
  functionNames : List String
deriving DecidableEq, Repr

/-- A map from the names of extensions, such as `available_extensions`. -/
abbrev Extensions := AList fun _ : String => ExtensionInfo

/-- `XrExtensionProperties`. -/
structure ExtensionProperties where
  /-- `extensionName`. -/
  extensionName : String
  /-- `extensionVersion`. -/
  extensionVersion : Nat
deriving DecidableEq, Repr

/-- What the server answers to the two calls of `xrEnumerateInstanceExtensionProperties`. -/
structure Enumeration where
  /-- The result of the call that asks for the count. -/
  counted : XrResult
  /-- The result of the other call. -/
  listed : XrResult
  /-- What that call has written. -/
  properties : List ExtensionProperties
deriving DecidableEq, Repr

/-- `ModuleExtension`. -/
structure ModuleExtension where
  /-- `extension_name`. -/
  extensionName : String
  /-- `extension_version`. -/
  extensionVersion : Nat
  /-- `function_names`. -/
  functionNames : List String
deriving DecidableEq, Repr

/-- What the client is built for. -/
inductive Platform where
  /-- With `_WIN32`. -/
  | windows
  /-- Without either macro. -/
  | linux
  /-- With `__ANDROID__`. -/
  | android
deriving DecidableEq, Repr

namespace Platform

/-- The extension for the clock of the platform, whose functions the client implements. -/
def timer : Platform → String × ExtensionInfo
  | .windows => ("XR_KHR_win32_convert_performance_counter_time",
      ⟨1, ["xrConvertWin32PerformanceCounterToTimeKHR",
        "xrConvertTimeToWin32PerformanceCounterKHR"]⟩)
  | .linux | .android => ("XR_KHR_convert_timespec_time",
      ⟨1, ["xrConvertTimespecTimeToTimeKHR", "xrConvertTimeToTimespecTimeKHR"]⟩)

/-- The extensions built into the client that are stripped from a request. -/
def stripped : Platform → List (String × ExtensionInfo)
  | .windows | .linux => []
  | .android => [("XR_KHR_android_create_instance", ⟨3, []⟩)]

/-- Extensions built into the runtime. -/
def builtIn (platform : Platform) : List (String × ExtensionInfo) :=
  platform.timer :: platform.stripped

end Platform

/-- `emplace`: an entry that is there stays. -/
def emplace (table : Extensions) (entry : String × ExtensionInfo) : Extensions :=
  if entry.1 ∈ table then table else table.insert entry.1 entry.2

/-- The loop over the properties: the intersection with the compiled extensions, in the lowest
common version. -/
def collectReported (enabled : Extensions) (table : Extensions) (properties : ExtensionProperties) :
    Extensions :=
  match enabled.lookup properties.extensionName with
  | none => table
  | some info =>
    emplace table (properties.extensionName,
      { info with version := min info.version properties.extensionVersion })

/-- `collect_rpc_available_extensions`. -/
def collectRpcAvailableExtensions (platform : Platform) (enabled : Extensions)
    (enumeration : Enumeration) : Extensions :=
  if !enumeration.counted.succeeded then ∅
  else if !enumeration.listed.succeeded then ∅
  else platform.builtIn.foldl emplace (enumeration.properties.foldl (collectReported enabled) ∅)

/-- `result[name] = info`: module extensions override the others. -/
def overrideWith (table : Extensions) (extension : ModuleExtension) : Extensions :=
  table.insert extension.extensionName ⟨extension.extensionVersion, extension.functionNames⟩

/-- `collect_available_extensions`; a module is the list of its extensions. -/
def collectAvailableExtensions (platform : Platform) (enabled : Extensions)
    (enumeration : Enumeration) (modules : List (List ModuleExtension)) : Extensions :=
  modules.flatten.foldl overrideWith (collectRpcAvailableExtensions platform enabled enumeration)

/-- What `xrEnumerateInstanceExtensionProperties` returns and writes. -/
structure Enumerated where
  /-- The result. -/
  result : XrResult
  /-- `propertyCountOutput`, if it is written. -/
  count : Option Nat := none
  /-- The properties written. -/
  properties : List ExtensionProperties := []
deriving DecidableEq, Repr

/-- `xrEnumerateInstanceExtensionPropertiesImpl`. -/
def enumerateInstanceExtensionProperties (available : Extensions) (layerName : Option String)
    (propertyCapacityInput : Nat) : Enumerated :=
  let extensionCount := available.entries.length
  if layerName.isSome then { result := .success, count := some 0 }
  else if propertyCapacityInput ≠ 0 ∧ propertyCapacityInput < extensionCount then
    { result := .sizeInsufficient, count := some extensionCount }
  else if propertyCapacityInput = 0 then { result := .success, count := some extensionCount }
  else
    { result := .success
      properties := available.entries.map fun entry => ⟨entry.1, entry.2.version⟩ }

/-- `provided_extensions`. -/
def providedExtensions (platform : Platform) (modules : List (List ModuleExtension)) :
    List String :=
  modules.flatten.map ModuleExtension.extensionName ++ platform.stripped.map Prod.fst

/-- `xrCreateInstanceImpl` up to the call of the server: the refusal, or the create info it sends.
On Android it wants `XrInstanceCreateInfoAndroidKHR` in the chain. -/
def requestInstance (platform : Platform) (modules : List (List ModuleExtension))
    (available : Extensions) (client : ClientState) (createInfo : InstanceCreateInfo)
    (androidCreateInfo : Bool) : Except XrResult InstanceCreateInfo :=
  if client.savedInstance ≠ 0 then .error .limitReached
  else if client.currentApiVersion < createInfo.apiVersion then .error .apiVersionUnsupported
  else if ∃ name ∈ createInfo.enabledExtensions, name ∉ available then .error .extensionNotPresent
  else if platform = .android ∧ !androidCreateInfo then .error .initializationFailed
  else
    .ok { createInfo with
      enabledExtensions := createInfo.enabledExtensions.filter fun name =>
        name ∉ providedExtensions platform modules }

/-- The extensions that the server has reported. -/
def Enumeration.reported (enumeration : Enumeration) : List String :=
  if enumeration.counted.succeeded ∧ enumeration.listed.succeeded then
    enumeration.properties.map ExtensionProperties.extensionName
  else []

/-- The extensions that the client or one of its modules provides. -/
def localExtensions (platform : Platform) (modules : List (List ModuleExtension)) : List String :=
  modules.flatten.map ModuleExtension.extensionName ++ platform.builtIn.map Prod.fst

/-- The extensions sent are reported and not provided locally, and none of those is missing. -/
structure Negotiated (reported provided requested sent : List String) : Prop where
  /-- The server has reported what it is asked for. -/
  known : ∀ name ∈ sent, name ∈ reported
  /-- Nothing that is provided locally is sent. -/
  foreign : ∀ name ∈ sent, name ∉ provided
  /-- Everything else that the server has reported is. -/
  complete : ∀ name ∈ requested, name ∈ reported → name ∉ provided → name ∈ sent

/-- The names of a table after an `emplace`. -/
theorem mem_emplace {table : Extensions} {entry : String × ExtensionInfo} {name : String} :
    name ∈ emplace table entry ↔ name ∈ table ∨ name = entry.1 := by
  simp only [emplace]
  split
  next there =>
    constructor
    · exact .inl
    · rintro (old | rfl)
      · exact old
      · exact there
  next missing => rw [AList.mem_insert, or_comm]

/-- After several. -/
theorem mem_emplaceAll {entries : List (String × ExtensionInfo)} {table : Extensions}
    {name : String} :
    name ∈ entries.foldl emplace table ↔ name ∈ table ∨ name ∈ entries.map Prod.fst := by
  induction entries generalizing table with
  | nil => simp
  | cons entry rest ih => rw [List.foldl_cons, ih, mem_emplace, List.map_cons, List.mem_cons,
      or_assoc]

/-- After the loop over the properties. -/
theorem mem_reported {enabled table : Extensions} {properties : List ExtensionProperties}
    {name : String} :
    name ∈ properties.foldl (collectReported enabled) table ↔
      name ∈ table ∨ name ∈ properties.map ExtensionProperties.extensionName ∧ name ∈ enabled := by
  induction properties generalizing table with
  | nil => simp
  | cons first rest ih =>
    have step : name ∈ collectReported enabled table first ↔
        name ∈ table ∨ name = first.extensionName ∧ name ∈ enabled := by
      simp only [collectReported]
      split
      next missing =>
        have absent : first.extensionName ∉ enabled := AList.lookup_eq_none.mp missing
        constructor
        · exact .inl
        · rintro (old | ⟨rfl, there⟩)
          · exact old
          · exact absurd there absent
      next info found =>
        have there : first.extensionName ∈ enabled :=
          AList.lookup_isSome.mp (Option.isSome_of_eq_some found)
        rw [mem_emplace]
        constructor
        · rintro (old | rfl)
          · exact .inl old
          · exact .inr ⟨rfl, there⟩
        · exact Or.imp_right And.left
    rw [List.foldl_cons, ih, step, List.map_cons, List.mem_cons, or_and_right, or_assoc]

/-- After the loop over the modules. -/
theorem mem_overridden {extensions : List ModuleExtension} {table : Extensions} {name : String} :
    name ∈ extensions.foldl overrideWith table ↔
      name ∈ table ∨ name ∈ extensions.map ModuleExtension.extensionName := by
  induction extensions generalizing table with
  | nil => simp
  | cons first rest ih =>
    rw [List.foldl_cons, ih, overrideWith, AList.mem_insert, List.map_cons, List.mem_cons,
      ← or_assoc, or_comm (a := name = first.extensionName)]

/-- What is available besides the extensions of the modules is reported or built in. -/
theorem mem_available {platform : Platform} {enabled : Extensions} {enumeration : Enumeration}
    {modules : List (List ModuleExtension)} {name : String}
    (available : name ∈ collectAvailableExtensions platform enabled enumeration modules) :
    name ∈ enumeration.reported ∨ name ∈ localExtensions platform modules := by
  rw [collectAvailableExtensions, mem_overridden] at available
  rcases available with rpc | provided
  · rw [collectRpcAvailableExtensions] at rpc
    split at rpc
    · exact absurd rpc (AList.notMem_empty name)
    split at rpc
    · exact absurd rpc (AList.notMem_empty name)
    next counted listed =>
      rw [mem_emplaceAll, mem_reported] at rpc
      rcases rpc with (none | ⟨reported, -⟩) | builtIn
      · exact absurd none (AList.notMem_empty name)
      · left
        rw [Enumeration.reported, if_pos ⟨by simpa using counted, by simpa using listed⟩]
        exact reported
      · exact .inr (List.mem_append_right _ builtIn)
  · exact .inr (List.mem_append_left _ provided)

/-- The names that an application is told when it has asked for the count. -/
def advertised (available : Extensions) : List String :=
  let counted := enumerateInstanceExtensionProperties available none 0
  (enumerateInstanceExtensionProperties available none (counted.count.getD 0)).properties.map
    ExtensionProperties.extensionName

/-- They are the available ones. -/
theorem mem_advertised {available : Extensions} {name : String} :
    name ∈ advertised available ↔ name ∈ available := by
  have keys : name ∈ available ↔ name ∈ available.entries.map Sigma.fst := Iff.rfl
  rw [keys]
  cases entries : available.entries with
  | nil => simp [advertised, enumerateInstanceExtensionProperties, entries]
  | cons entry rest => simp [advertised, enumerateInstanceExtensionProperties, entries]

/-- What an application gets through has been checked against the available extensions. -/
theorem requestInstance_ok {platform : Platform} {modules : List (List ModuleExtension)}
    {available : Extensions} {client : ClientState} {createInfo sent : InstanceCreateInfo}
    {androidCreateInfo : Bool}
    (accepted : requestInstance platform modules available client createInfo androidCreateInfo =
      .ok sent) :
    (∀ name ∈ createInfo.enabledExtensions, name ∈ available) ∧
    sent.enabledExtensions = createInfo.enabledExtensions.filter fun name =>
      name ∉ providedExtensions platform modules := by
  simp only [requestInstance] at accepted
  split at accepted
  · contradiction
  split at accepted
  · contradiction
  split at accepted
  · contradiction
  next present =>
    split at accepted
    · contradiction
    obtain rfl := Except.ok.inj accepted
    exact ⟨by simpa using present, rfl⟩

/-- The create info that the client sends is as it should be exactly if the application does not
request the extension for the clock, or a module provides it too: of the extensions built into the
client only that one is not stripped. -/
theorem negotiated_iff {platform : Platform} {enabled : Extensions} {enumeration : Enumeration}
    {modules : List (List ModuleExtension)} {client : ClientState}
    {createInfo sent : InstanceCreateInfo} {androidCreateInfo : Bool}
    (accepted : requestInstance platform modules
      (collectAvailableExtensions platform enabled enumeration modules) client createInfo
      androidCreateInfo = .ok sent) :
    Negotiated enumeration.reported (localExtensions platform modules)
        createInfo.enabledExtensions sent.enabledExtensions ↔
      (platform.timer.1 ∈ createInfo.enabledExtensions →
        platform.timer.1 ∈ modules.flatten.map ModuleExtension.extensionName) := by
  obtain ⟨present, stripped⟩ := requestInstance_ok accepted
  have notStripped : platform.timer.1 ∉ platform.stripped.map Prod.fst := by
    cases platform <;> decide
  have locals (name : String) : name ∈ localExtensions platform modules ↔
      name ∈ providedExtensions platform modules ∨ name = platform.timer.1 := by
    simp only [localExtensions, providedExtensions, Platform.builtIn, List.mem_append,
      List.map_cons, List.mem_cons]
    tauto
  have mem_sent (name : String) : name ∈ sent.enabledExtensions ↔
      name ∈ createInfo.enabledExtensions ∧ name ∉ providedExtensions platform modules := by
    rw [stripped, List.mem_filter, decide_eq_true_eq]
  constructor
  · intro negotiated requested
    by_contra missing
    have provided : platform.timer.1 ∉ providedExtensions platform modules := by
      rw [providedExtensions, List.mem_append]
      exact fun either => either.elim missing notStripped
    exact negotiated.foreign _ ((mem_sent _).mpr ⟨requested, provided⟩)
      ((locals _).mpr (.inr rfl))
  · intro overridden
    have foreign (name : String) (there : name ∈ sent.enabledExtensions) :
        name ∉ localExtensions platform modules := by
      obtain ⟨requested, provided⟩ := (mem_sent name).mp there
      rw [locals]
      rintro (either | rfl)
      · exact provided either
      · exact provided (List.mem_append_left _ (overridden requested))
    refine ⟨fun name there => ?_, foreign, fun name requested _ apart => ?_⟩
    · have requested := ((mem_sent name).mp there).1
      exact (mem_available (present name requested)).resolve_right (foreign name there)
    · rw [locals, not_or] at apart
      exact (mem_sent name).mpr ⟨requested, apart.1⟩

/-- A server that reports one extension. -/
def oneReported : Enumeration :=
  { counted := .success, listed := .success, properties := [⟨"XR_EXT_hand_tracking", 4⟩] }

/-- The build supports that extension. -/
def oneEnabled : Extensions := AList.singleton "XR_EXT_hand_tracking" ⟨3, []⟩

/-- A module that provides another extension, with the function that goes with it. -/
def oneModule : List (List ModuleExtension) :=
  [[⟨"XR_KHR_vulkan_enable2", 2, ["xrCreateVulkanInstanceKHR"]⟩]]

/-- Of the two extensions that the application may request, the module's is left out of what is
sent. -/
theorem negotiated_iff_handTracking :
    Negotiated ["XR_EXT_hand_tracking"] (localExtensions .linux oneModule)
      ["XR_EXT_hand_tracking", "XR_KHR_vulkan_enable2"] ["XR_EXT_hand_tracking"] := by
  have accepted : requestInstance .linux oneModule (collectAvailableExtensions .linux oneEnabled
      oneReported oneModule) { currentApiVersion := 1, availableExtensions := [] }
      ⟨1, ["XR_EXT_hand_tracking", "XR_KHR_vulkan_enable2"]⟩ false =
      .ok ⟨1, ["XR_EXT_hand_tracking"]⟩ := by
    decide
  exact (negotiated_iff accepted).mpr (by decide)

/-- The extension for the clock is advertised without the server and sent to it. -/
theorem timer_sent_unreported :
    ¬∀ (platform : Platform) (enabled : Extensions) (enumeration : Enumeration)
      (modules : List (List ModuleExtension)) (client : ClientState)
      (createInfo sent : InstanceCreateInfo) (androidCreateInfo : Bool),
      (∀ name ∈ createInfo.enabledExtensions,
        name ∈ advertised (collectAvailableExtensions platform enabled enumeration modules)) →
      requestInstance platform modules (collectAvailableExtensions platform enabled enumeration
        modules) client createInfo androidCreateInfo = .ok sent →
      Negotiated enumeration.reported (localExtensions platform modules)
        createInfo.enabledExtensions sent.enabledExtensions := by
  intro always
  have negotiated := always .linux oneEnabled oneReported []
    { currentApiVersion := 1, availableExtensions := [] } ⟨1, ["XR_KHR_convert_timespec_time"]⟩
    ⟨1, ["XR_KHR_convert_timespec_time"]⟩ false (by decide) (by decide)
  exact absurd (negotiated.known "XR_KHR_convert_timespec_time" (by decide)) (by decide)

end XrTransport.Client
