import Mathlib.Data.List.Basic

/-!
# The specification the generator reads

`spec_parser.py` turns the OpenXR registry into structs, members and parameters. The templates
choose, for each member or parameter, one call of the serialization library. A `Build` is what
the compiled code depends on besides: the groups of structs per extension, which extensions are
compiled in, and the sizes and array extents of the C headers.
-/
namespace XrTransport.Serialization

/-- `XrParam`: a struct member or a function parameter as declared. -/
structure XrParam where
  /-- What precedes the type, such as `const`. -/
  qualifier : Option String := none
  /-- The C type, without pointer or extent. -/
  type : String
  /-- What follows the type, such as `*`. -/
  pointer : Option String := none
  /-- The declared name. -/
  name : String
  /-- The array extent as written, such as `XR_MAX_APPLICATION_NAME_SIZE`. -/
  array : Option String := none
  /-- The `len` attribute: the name of the count, or `null-terminated`. -/
  len : Option String := none
deriving DecidableEq, Repr

/-- `XrStruct`: a struct of the registry. -/
structure XrStruct where
  /-- The C name. -/
  name : String
  /-- The `XrStructureType` value that names this struct and no other, if it has one. -/
  xrType : Option Nat := none
  /-- Members in order of declaration. -/
  members : List XrParam
  /-- A struct with a `next` pointer and no structure type of its own: a base of others. -/
  header : Bool := false
deriving DecidableEq, Repr

/-- `CUSTOM_STRUCTS`: the first struct whose functions are written by hand. -/
def instanceCreateInfoName : String := "XrInstanceCreateInfo"

/-- `CUSTOM_STRUCTS`: the second struct whose functions are written by hand. -/
def frameEndInfoName : String := "XrFrameEndInfo"

/-- Whether the functions of a struct are written by hand. -/
def XrStruct.custom (s : XrStruct) : Bool :=
  s.name = instanceCreateInfoName || s.name = frameEndInfoName

/-- The types whose values a struct holds in place. -/
def XrStruct.inline (s : XrStruct) : List String :=
  if s.name = instanceCreateInfoName then ["XrApplicationInfo"]
  else (s.members.filter fun member => member.pointer.isNone).map XrParam.type

/-- `XR_TYPE_UNKNOWN`, which stands for a null chain pointer on the wire. -/
def typeUnknown : Nat := 0

/-- The compiled serialization code, as far as it depends on the registry and the headers. -/
structure Build where
  /-- `spec.structs`. -/
  structs : List XrStruct
  /-- `spec.extensions`: the structs of each extension, the core group under no name. -/
  extensions : List (Option String × List XrStruct)
  /-- Whether `XRTRANSPORT_EXT_` of that name is defined. -/
  enabled : String → Bool
  /-- `sizeof` of a C type. -/
  sizeOf : String → Nat
  /-- The value of an array extent. -/
  extent : String → Nat
  /-- How deep structs of a name hold other structs in place. -/
  nesting : String → Nat
  /-- No struct holds itself in place, which C would not compile. -/
  nested : ∀ s ∈ structs, ∀ type ∈ s.inline, nesting type < nesting s.name
  /-- The members of a struct have different names. -/
  distinct : ∀ s ∈ structs, (s.members.map XrParam.name).Nodup
  /-- No struct is named by `XR_TYPE_UNKNOWN`. -/
  typed : ∀ group ∈ extensions, ∀ s ∈ group.2, s.xrType ≠ some typeUnknown

namespace Build

variable (b : Build)

/-- `find_struct`: the index is filled in order, so a later struct of a name wins. -/
def findStruct (name : String) : Option XrStruct :=
  b.structs.reverse.find? fun s => s.name = name

/-- `for_grouped_structs(xr_structs_only=True)` after the preprocessor: the entries of the
lookup tables. -/
def lookupTable : List XrStruct :=
  (b.extensions.filter fun group => group.1.all b.enabled).flatMap fun group =>
    group.2.filter fun s => s.xrType.isSome

/-- `serializer_lookup`, `deserializer_lookup` and `size_lookup` find an entry by its structure
type. The three tables are filled from one list, and the first entry of a type stays. -/
def lookup (type : Nat) : Option XrStruct :=
  b.lookupTable.find? fun s => s.xrType = some type

/-- `size_lookup`: the size of the struct of a type, zero for a type that is not in the table. -/
def sizeLookup (type : Nat) : Nat := (b.lookup type).elim 0 fun s => b.sizeOf s.name

/-- A struct found by name is one of the registry's and has that name. -/
theorem findStruct_mem {name : String} {s : XrStruct} (found : b.findStruct name = some s) :
    s ∈ b.structs ∧ s.name = name := by
  refine ⟨?_, by simpa using List.find?_some found⟩
  simpa using List.mem_of_find?_eq_some found

/-- No table has an entry for `XR_TYPE_UNKNOWN`. -/
theorem lookup_typeUnknown : b.lookup typeUnknown = none := by
  rw [lookup, List.find?_eq_none]
  intro s entry named
  simp only [lookupTable, List.mem_flatMap, List.mem_filter] at entry
  obtain ⟨group, ⟨present, _⟩, member, _⟩ := entry
  exact b.typed group present s member (by simpa using named)

/-- A type found in the table is not `XR_TYPE_UNKNOWN`. -/
theorem lookup_ne_typeUnknown {type : Nat} {s : XrStruct} (found : b.lookup type = some s) :
    type ≠ typeUnknown := by
  rintro rfl
  rw [b.lookup_typeUnknown] at found
  contradiction

end Build

/-- How many elements a pointer member points to: `1`, `count_null_terminated` of the pointer,
or the value of a sibling member. -/
inductive Count where
  /-- A pointer without `len`. -/
  | one
  /-- `len="null-terminated"`. -/
  | nullTerminated
  /-- `len` names a sibling. -/
  | sibling (name : String)
deriving DecidableEq, Repr

/-- The library call the templates choose for a member. -/
inductive MemberKind where
  /-- `serialize_xr_array`: a counted array of structs behind a base struct. -/
  | xrArray (len : String)
  /-- `serialize_xr`: a `next` pointer or a pointer to a base struct. -/
  | xr
  /-- `serialize_ptr`: any other pointer. -/
  | ptr (count : Count)
  /-- `serialize_array`: a fixed array. -/
  | array (extent : String)
  /-- `serialize_time`: an `XrTime` by value. -/
  | time
  /-- `serialize`: any other value. -/
  | value
deriving DecidableEq, Repr

/-- Whether the name is that of a base struct. -/
def Build.isHeader (b : Build) (type : String) : Bool :=
  (b.findStruct type).any XrStruct.header

/-- The chain of conditions that `serialize_member`, `deserialize_member` and `cleanup_member`
share; `none` is an `#error` line in the output. Cleaning up has no time branch, since a value
needs no cleaning. -/
def memberKind (b : Build) (member : XrParam) : Option MemberKind :=
  if member.pointer.isSome && member.array.isSome then none
  else if member.pointer.any (· != "*") then none
  else if member.len.any (·.toList.contains ',') then none
  else
    match member.pointer, member.len with
    | some _, some len =>
      if b.isHeader member.type then some (.xrArray len)
      else if member.type = "void" ∧ member.name = "next" then some .xr
      else if len = "null-terminated" then some (.ptr .nullTerminated)
      else some (.ptr (.sibling len))
    | some _, none =>
      if (member.type = "void" ∧ member.name = "next") ∨ b.isHeader member.type then some .xr
      else some (.ptr .one)
    | none, _ =>
      if b.isHeader member.type then some .xr
      else match member.array with
        | some extent => some (.array extent)
        | none => if member.type = "XrTime" then some .time else some .value

/-- Fixed arrays and values are no pointers. -/
theorem memberKind_inline {b : Build} {member : XrParam} {kind : MemberKind}
    (known : memberKind b member = some kind)
    (inline : kind = .value ∨ ∃ extent, kind = .array extent) : member.pointer = none := by
  cases pointer : member.pointer with
  | none => rfl
  | some text =>
    cases counted : member.len with
    | none =>
      simp only [memberKind, pointer, counted] at known
      grind
    | some len =>
      simp only [memberKind, pointer, counted] at known
      grind

end XrTransport.Serialization
