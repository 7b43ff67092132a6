import XrTransport.Foundation.Paths
import XrTransport.Serialization.Value

/-!
# Cleaning up

The cleaners of `deserializer.h`, the functions `deserializer_impl.mako` generates for the structs
of the registry, and the two hand-written ones. Out of place every pointer that is not null is one
that `malloc` has returned for it, so a block is named by the way to its pointer. A cleaner has no
result when it throws or reads what is not there; else it has freed some blocks. As in the
deserializer, `recur` stands for the overloads.
-/
namespace XrTransport.Serialization

open XrTransport.Path (numbered)

mutual

/-- The blocks behind the pointers of a value. -/
def Value.blocks : Value → List Path
  | .aggregate parts => numbered 0 (blocksAll parts)
  | .block elements => [] :: numbered 0 (blocksAll elements)
  | .chained _ object => [] :: numbered 0 [object.blocks]
  | .chainedArray _ elements => [] :: numbered 0 (blocksAll elements)
  | _ => []

/-- Part by part. -/
def blocksAll : List Value → List (List Path)
  | [] => []
  | value :: values => value.blocks :: blocksAll values

end

/-- The parts of an object; of one beyond the storage there are none. -/
def Value.partsThere : Value → Option (List Value)
  | .aggregate parts => some parts
  | .outside => some []
  | _ => none

/-- `cleanup` of a type that is no struct. -/
def cleanupPlain (_ : Value) : Option (List Path) := some []

/-- One part of an object after the other. -/
def inOrder : List (Option (List Path)) → Option (List (List Path))
  | [] => some []
  | first :: rest => do
    let paths ← first
    let later ← inOrder rest
    return paths :: later

/-- `cleanup_array`, element by element: the elements there are, then whatever lies behind them. -/
def cleanupArray (element : Value → Option (List Path)) :
    Nat → List Value → Option (List (List Path))
  | 0, _ => some []
  | len + 1, elements => do
    let paths ← element (Value.part 0 elements)
    let later ← cleanupArray element len elements.tail
    return paths :: later

/-- The elements of a block have been cleaned up, and the block is freed. -/
def freeBlock (below : List (List Path)) : List Path := numbered 0 below ++ [[]]

/-- `cleanup_ptr`. -/
def cleanupPtr (element : Value → Option (List Path)) (len : Nat) : Value → Option (List Path)
  | .null => some []
  | .block elements => freeBlock <$> cleanupArray element len elements
  | _ => none

section

variable (b : Build) (recur : String → Value → Option (List Path))

/-- `cleanup_xr`. `cleaner_lookup` throws for a type that is not in its table, and the cleaner of
another struct than the one that is there would read it as what it is not. -/
def cleanupXr : Value → Option (List Path)
  | .nullStruct => some []
  | .chained name object => do
    let type ← object.structureType
    let struct ← b.lookup type
    if struct.name = name then
      let below ← recur name object
      return freeBlock [below]
    else none
  | _ => none

/-- `cleanup_xr_array`, which takes the type of the first element for that of all. -/
def cleanupXrArray (count : Nat) : Value → Option (List Path)
  | .nullStruct => some []
  | .chainedArray name elements => do
    let type ← (Value.part 0 elements).structureType
    let struct ← b.lookup type
    if struct.name = name then freeBlock <$> cleanupArray (recur name) count elements
    else none
  | _ => none

/-- What `cleanup_member` emits for a member of the struct or parameter list at hand. -/
def cleanupMember (members : List XrParam) (values : List Value) (member : XrParam)
    (value : Value) : Option (List Path) :=
  match memberKind b member with
  | none => none
  | some (.xrArray len) => do
    let count ← countOf members values value (.sibling len)
    cleanupXrArray b recur count value
  | some .xr => cleanupXr b recur value
  | some (.ptr count) => do
    let len ← countOf members values value count
    cleanupPtr (recur member.type) len value
  | some (.array extent) => do
    let elements ← value.partsThere
    numbered 0 <$> cleanupArray (recur member.type) (b.extent extent) elements
  | some .time => cleanupPlain value
  | some .value => recur member.type value

/-- Members in order; counts are looked up among all members and values of the struct. -/
def cleanupMembers (members : List XrParam) (values : List Value) :
    List XrParam → List Value → Option (List (List Path))
  | [], _ => some []
  | member :: rest, others => do
    let paths ← cleanupMember b recur members values member (Value.part 0 others)
    let later ← cleanupMembers members values rest others.tail
    return paths :: later

/-- The loops of the hand-written cleaners over an array of pointers, which is freed after them;
`free` does nothing with a null pointer. -/
def cleanupEach (element : Value → Option (List Path)) (count pointer : Value) :
    Option (List Path) :=
  match count, pointer with
  | .plain len, .null => numbered 0 <$> cleanupArray element len []
  | .plain len, .block elements => freeBlock <$> cleanupArray element len elements
  | _, _ => none

/-- `cleanup_ptr(name, count_null_terminated(name))` of a string. -/
def cleanupName (name : Value) : Option (List Path) := do
  let len ← countNullTerminated name
  cleanupPtr cleanupPlain len name

/-- `cleanup(const XrInstanceCreateInfo*)`, which leaves `applicationInfo` alone. -/
def cleanupInstanceCreateInfo : List Value → Option (List (List Path))
  | [_, next, _, _, enabledApiLayerCount, enabledApiLayerNames, enabledExtensionCount,
      enabledExtensionNames] =>
    inOrder [
      some [],
      cleanupXr b recur next,
      some [],
      some [],
      some [],
      cleanupEach cleanupName enabledApiLayerCount enabledApiLayerNames,
      some [],
      cleanupEach cleanupName enabledExtensionCount enabledExtensionNames]
  | _ => none

/-- `cleanup(const XrFrameEndInfo*)`. -/
def cleanupFrameEndInfo : List Value → Option (List (List Path))
  | [_, next, _, _, layerCount, layers] =>
    inOrder [
      some [],
      cleanupXr b recur next,
      some [],
      some [],
      some [],
      cleanupEach (cleanupXr b recur) layerCount layers]
  | _ => none

/-- The overload of `cleanup` for a struct; base structs are no exception. -/
def cleanupStruct (struct : XrStruct) (value : Value) : Option (List Path) := do
  let values ← value.partsThere
  numbered 0 <$>
    (if struct.name = instanceCreateInfoName then cleanupInstanceCreateInfo b recur values
    else if struct.name = frameEndInfoName then cleanupFrameEndInfo b recur values
    else cleanupMembers b recur struct.members values struct.members values)

/-- The overload of `cleanup` for a C type. -/
def cleanupType (type : String) (value : Value) : Option (List Path) :=
  match b.findStruct type with
  | none => cleanupPlain value
  | some struct => cleanupStruct b recur struct value

end

/-- `cleanup` of a value of a C type, with calls nested no deeper than the fuel. -/
def cleanup (b : Build) : Nat → String → Value → Option (List Path)
  | 0 => fun _ _ => none
  | fuel + 1 => cleanupType b (cleanup b fuel)

/-- Cleaning up comes to its end, and has then freed every block of the value once and nothing
else. -/
def FreesExactly (freed : Option (List Path)) (blocks : List Path) : Prop :=
  ∃ paths, freed = some paths ∧ paths.Nodup ∧ ∀ path, path ∈ paths ↔ path ∈ blocks

end XrTransport.Serialization
