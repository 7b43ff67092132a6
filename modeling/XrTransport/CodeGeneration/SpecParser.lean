import Mathlib.Data.List.AList
import Mathlib.Data.List.Sort

/-!
# Extension groups

`spec_parser.py` collects the structs and the functions of the registry and then puts them into
groups, one for each extension and one for the core. The templates emit their code group by group,
each between `#ifdef` and `#endif`. Python compares the objects for structs and functions by
identity; here the position of the tag that an object is made from is part of it.
-/
namespace XrTransport.CodeGeneration.SpecParser

/-- A `member` tag of a struct. -/
structure MemberTag where
  /-- The text of its `name` tag. -/
  name : String
  /-- `values`. -/
  values : Option String := none
deriving DecidableEq, Repr

/-- A tag `types/type[@category='struct']`. -/
structure TypeTag where
  /-- `name`. -/
  name : String
  /-- `alias`. -/
  aliasOf : Option String := none
  /-- Its members. -/
  members : List MemberTag := []
deriving DecidableEq, Repr

/-- A tag `commands/command`. -/
structure CommandTag where
  /-- The name, which is an attribute of an alias and in `proto` of another command. -/
  name : String
  /-- `alias`. -/
  aliasOf : Option String := none
deriving DecidableEq, Repr

/-- A tag `enum` of a `require` tag. -/
structure EnumTag where
  /-- `name`. -/
  name : String
  /-- `extends`. -/
  extended : Option String := none
deriving DecidableEq, Repr

/-- A `require` tag of an extension. -/
structure RequireTag where
  /-- The names of its `type` tags. -/
  types : List String := []
  /-- The names of its `command` tags. -/
  commands : List String := []
  /-- Its `enum` tags. -/
  enums : List EnumTag := []
deriving DecidableEq, Repr

/-- A tag `extensions/extension`. -/
structure ExtensionTag where
  /-- `name`. -/
  name : String
  /-- `number`. -/
  number : Nat
  /-- Its `require` tags. -/
  requires : List RequireTag
deriving DecidableEq, Repr

/-- The registry, as far as it decides about the groups. -/
structure Registry where
  /-- The tags of structs. -/
  types : List TypeTag
  /-- The tags of commands. -/
  commands : List CommandTag
  /-- The tags of extensions. -/
  extensions : List ExtensionTag
deriving DecidableEq, Repr

/-- An `XrStruct` object. -/
structure Struct where
  /-- The position of its tag. -/
  position : Nat
  /-- `name`. -/
  name : String
  /-- `xr_type`. -/
  xrType : Option String
deriving DecidableEq, Repr

/-- An `XrFunction` object. -/
structure Function where
  /-- The position of its tag. -/
  position : Nat
  /-- `name`. -/
  name : String
deriving DecidableEq, Repr

/-- `XrExtension`. -/
structure XrExtension where
  /-- `number`. -/
  number : Nat
  /-- `structs`. -/
  structs : List Struct := []
  /-- `functions`. -/
  functions : List Function := []
deriving DecidableEq, Repr

/-- `struct_blacklist`. -/
def structBlacklist : List String :=
  ["XrNegotiateLoaderInfo", "XrNegotiateApiLayerRequest", "XrNegotiateRuntimeRequest",
    "XrApiLayerNextInfo", "XrApiLayerCreateInfo", "XrBaseInStructure", "XrBaseOutStructure"]

/-- `function_blacklist`. -/
def functionBlacklist : List String :=
  ["xrNegotiateLoaderRuntimeInterface", "xrNegotiateLoaderApiLayerInterface",
    "xrCreateApiLayerInstance", "xrGetInstanceProcAddr"]

/-- `get_xr_structure_type`: the `values` of the first member `type`. -/
def getXrStructureType (tag : TypeTag) : Option String :=
  (tag.members.find? (·.name = "type")).bind MemberTag.values

/-- `sort(key=lambda x: x.name)`, which is stable. -/
def sortByName {α : Type} (nameOf : α → String) (objects : List α) : List α :=
  objects.insertionSort fun first second => nameOf first ≤ nameOf second

/-- `collect_structs`, without the members. -/
def collectStructs (registry : Registry) : List Struct :=
  sortByName Struct.name <| registry.types.zipIdx.filterMap fun (tag, position) =>
    if tag.aliasOf.isSome then none
    else if tag.name ∈ structBlacklist then none
    else
      -- An empty `values` is as good as none.
      some ⟨position, tag.name, (getXrStructureType tag).filter (· ≠ "")⟩

/-- `collect_functions`, without the parameters. -/
def collectFunctions (registry : Registry) : List Function :=
  sortByName Function.name <| registry.commands.zipIdx.filterMap fun (tag, position) =>
    if tag.aliasOf.isSome then none
    else if tag.name ∈ functionBlacklist then none
    else some ⟨position, tag.name⟩

/-- The end of the body of a loop: an object that was found joins the extension and is discarded
from the set of those without one. -/
def take {α : Type} [DecidableEq α] (taken : List α × List α) : Option α → List α × List α
  | none => taken
  | some object => (taken.1 ++ [object], taken.2.filter (· ≠ object))

/-- `findall("require/type")`, `findall("require/command")` or `findall("require/enum")`. -/
def ExtensionTag.findAll {α : Type} (tag : ExtensionTag) (under : RequireTag → List α) : List α :=
  tag.requires.flatMap under

/-- The locals of `collect_extensions` that outlive a round. -/
structure Collected where
  /-- `no_extension_structs`. -/
  noExtensionStructs : List Struct
  /-- `no_extension_functions`. -/
  noExtensionFunctions : List Function
  /-- `extensions`. -/
  extensions : AList fun _ : Option String => XrExtension

/-- One round of the loop over the extension tags. -/
def collectExtension (structs : List Struct) (functions : List Function) (collected : Collected)
    (tag : ExtensionTag) : Collected :=
  let typed := (tag.findAll RequireTag.types).foldl
    (fun taken name => take taken (structs.find? (·.name = name)))
    ([], collected.noExtensionStructs)
  let called := (tag.findAll RequireTag.commands).foldl
    (fun taken name => take taken (functions.find? (·.name = name)))
    ([], collected.noExtensionFunctions)
  -- Some structs are not referred to by their extension, but their `XrStructureType` is.
  let enumerated := (tag.findAll RequireTag.enums).foldl
    (fun taken enum =>
      if enum.extended = some "XrStructureType" then
        take taken (structs.find? (·.xrType = some enum.name))
      else taken)
    typed
  let extension : XrExtension :=
    { number := tag.number
      structs := sortByName Struct.name enumerated.1
      functions := sortByName Function.name called.1 }
  { noExtensionStructs := enumerated.2
    noExtensionFunctions := called.2
    extensions :=
      if extension.structs ≠ [] ∨ extension.functions ≠ [] then
        collected.extensions.insert (some tag.name) extension
      else collected.extensions }

/-- The order of `sorted_extensions`: by name, with the core last. -/
def nameOrder : Option String → Option String → Bool
  | some first, some second => first ≤ second
  | _, none => true
  | none, some _ => false

/-- The groups of a specification. -/
abbrev Groups := List (Option String × XrExtension)

/-- `collect_extensions`. -/
def collectExtensions (registry : Registry) (structs : List Struct) (functions : List Function) :
    Groups :=
  let collected := registry.extensions.foldl (collectExtension structs functions)
    ⟨structs, functions, ∅⟩
  let core : XrExtension :=
    { number := 0
      structs := sortByName Struct.name collected.noExtensionStructs
      functions := sortByName Function.name collected.noExtensionFunctions }
  let extensions := collected.extensions.insert none core
  (extensions.entries.map fun entry => (entry.1, entry.2)).insertionSort fun first second =>
    nameOrder first.1 second.1

/-- The groups of a registry. -/
def parseGroups (registry : Registry) : Groups :=
  collectExtensions registry (collectStructs registry) (collectFunctions registry)

/-- Whether the preprocessor keeps what is emitted for a group. A name that is not true in Python
makes no `#ifdef`. -/
def present (enabled : String → Bool) : Option String → Bool
  | none => true
  | some name => name = "" || enabled name

/-- `for_grouped_structs` after the preprocessor: the structs that the body is emitted for. -/
def forGroupedStructs (enabled : String → Bool) (xrStructsOnly : Bool) (groups : Groups) :
    List Struct :=
  (groups.filter fun group => present enabled group.1).flatMap fun group =>
    group.2.structs.filter fun struct => !xrStructsOnly || struct.xrType.isSome

/-- `for_grouped_functions` after the preprocessor. -/
def forGroupedFunctions (enabled : String → Bool) (groups : Groups) : List Function :=
  (groups.filter fun group => present enabled group.1).flatMap fun group => group.2.functions

end XrTransport.CodeGeneration.SpecParser
