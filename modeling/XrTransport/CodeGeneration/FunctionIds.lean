import XrTransport.CodeGeneration.Partition

/-!
# Function ids

`function_ids.py` keeps a table of ids: for each extension its number and, within it, an id for each
of its functions. A new specification is merged into the stored table, and the table is then applied
entry by entry to the functions, a later entry overwriting an earlier one.
-/
namespace XrTransport.CodeGeneration.SpecParser

/-- `XrSpec`, without the structs. -/
structure XrSpec where
  /-- `functions`. -/
  functions : List Function
  /-- `extensions`. -/
  extensions : Groups
  /-- No two functions are the same object. -/
  objects : functions.Nodup
  /-- `extensions` is a dictionary. -/
  keys : (extensions.map Prod.fst).Nodup
  /-- The groups are made of the functions. -/
  grouped : ∀ group ∈ extensions, ∀ function ∈ group.2.functions, function ∈ functions

/-- `find_function`: the index is filled in order, so a later function of a name wins. -/
def XrSpec.findFunction (spec : XrSpec) (name : String) : Option Function :=
  spec.functions.reverse.find? (·.name = name)

/-- An entry of `functions` in the table. -/
structure FunctionEntry where
  /-- `name`. -/
  name : String
  /-- `id`. -/
  id : Nat
deriving DecidableEq, Repr

/-- An entry of the table; the core has no name. -/
structure ExtensionEntry where
  /-- `name`. -/
  name : Option String
  /-- `id`. -/
  id : Nat
  /-- `functions`. -/
  functions : List FunctionEntry
deriving DecidableEq, Repr

/-- The table, as it is stored in `function_ids.json`. -/
abbrev Table := List ExtensionEntry

/-- The loop over the functions of a group, which skips those that exist: the entries it appends. -/
def appendFunctions (existing : List String) : Nat → List Function → List FunctionEntry
  | _, [] => []
  | functionCounter, function :: rest =>
    if function.name ∈ existing then appendFunctions existing functionCounter rest
    else ⟨function.name, functionCounter⟩ :: appendFunctions existing (functionCounter + 1) rest

/-- `generate_function_ids`. -/
def generateFunctionIds (spec : XrSpec) : Table :=
  spec.extensions.map fun (name, extension) =>
    { name := name
      id := if name.any (· ≠ "") then extension.number else 0
      functions := appendFunctions [] 1 (sortByName Function.name extension.functions) }

/-- The largest id of an entry, or zero. -/
def maxFunctionId (functions : List FunctionEntry) : Nat :=
  functions.foldl (fun largest entry => max largest entry.id) 0

/-- The branch for an extension that has an entry: new ids come after the existing ones. -/
def extendEntry (extension : XrExtension) (entry : ExtensionEntry) : ExtensionEntry :=
  { entry with
    functions := entry.functions ++
      appendFunctions (entry.functions.map FunctionEntry.name)
        (maxFunctionId entry.functions + 1) extension.functions }

/-- The other branch: an entry with sorted functions. -/
def newEntry (name : Option String) (extension : XrExtension) : ExtensionEntry where
  name := name
  id := extension.number
  functions := appendFunctions [] 1 (sortByName Function.name extension.functions)

/-- `existing_extensions`: the position of the entry of a name. A later entry replaces an earlier
one in the dictionary. -/
def existingExtension (name : Option String) : Table → Option Nat
  | [] => none
  | entry :: rest =>
    match existingExtension name rest with
    | some position => some (position + 1)
    | none => if entry.name = name then some 0 else none

/-- One round of the loop over the groups. -/
def updateExtension (stored : Table) (functionIds : Table)
    (group : Option String × XrExtension) : Table :=
  match existingExtension group.1 stored with
  | some position => functionIds.modify position (extendEntry group.2)
  | none => functionIds ++ [newEntry group.1 group.2]

/-- `update_function_ids`. -/
def updateFunctionIds (spec : XrSpec) (functionIds : Table) : Table :=
  spec.extensions.foldl (updateExtension functionIds) functionIds

/-- `function.id` of every function. -/
abbrev Ids := Function → Option Nat

/-- The body of the inner loop: the id of the function that has the name, if there is one. -/
def applyFunctionId (spec : XrSpec) (extensionId : Nat) (ids : Ids) (entry : FunctionEntry) : Ids :=
  match spec.findFunction entry.name with
  | some function => fun other =>
    if other = function then some (extensionId * 1000 + entry.id) else ids other
  | none => ids

/-- `apply_function_ids`. -/
def applyFunctionIds (spec : XrSpec) (functionIds : Table) : Ids :=
  functionIds.foldl (fun ids entry => entry.functions.foldl (applyFunctionId spec entry.id) ids)
    fun _ => none

/-- The ids with which the templates are rendered. -/
def updatedIds (spec : XrSpec) (stored : Table) : Ids :=
  applyFunctionIds spec (updateFunctionIds spec stored)

/-- The initializer of `FunctionDispatch::handlers`. -/
def handlers (enabled : String → Bool) (spec : XrSpec) (ids : Ids) : List (Option Nat × Function) :=
  (forGroupedFunctions enabled spec.extensions).map fun function => (ids function, function)

/-- The ids are unique and stable. -/
structure UniqueAndStable (spec : XrSpec) (stored : Table) : Prop where
  /-- Every function has an id. -/
  every : ∀ function ∈ spec.functions, (updatedIds spec stored function).isSome = true
  /-- No other function has it. -/
  unique : ∀ function ∈ spec.functions, ∀ other ∈ spec.functions,
    updatedIds spec stored function = updatedIds spec stored other → function = other
  /-- Under its id the dispatch table has the handler of the function and no other. -/
  dispatched : ∀ enabled, ∀ handler ∈ handlers enabled spec (updatedIds spec stored),
    ∀ other ∈ handlers enabled spec (updatedIds spec stored), handler.1 = other.1 →
      handler = other
  /-- A function keeps the id that it had under the stored table. -/
  stable : ∀ function ∈ spec.functions, ∀ id, applyFunctionIds spec stored function = some id →
    updatedIds spec stored function = some id

/-- The groups that a parsed specification has are a dictionary. -/
theorem parseGroups_keys (registry : Registry) :
    ((parseGroups registry).map Prod.fst).Nodup := by
  have entries (table : AList fun _ : Option String => XrExtension) :
      ((Writes.entriesOf table).map Prod.fst).Nodup := by
    rw [Writes.entriesOf, List.map_map]
    exact table.nodupKeys
  have sorted : (parseGroups registry).Perm (Writes.entriesOf _) := List.perm_insertionSort _ _
  exact (sorted.map Prod.fst).nodup_iff.mpr (entries _)

/-- `parse_spec`. -/
def parseSpec (registry : Registry) : XrSpec where
  functions := collectFunctions registry
  extensions := parseGroups registry
  objects := collectFunctions_nodup registry
  keys := parseGroups_keys registry
  grouped := fun _ listed => (mem_of_group listed).2

end XrTransport.CodeGeneration.SpecParser
