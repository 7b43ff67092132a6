import XrTransport.Foundation.Stream
import XrTransport.Serialization.Value

/-!
# The deserializer

The library of `deserializer.h`, the functions `deserializer_impl.mako` generates for the structs
of the registry, and the two hand-written ones. Every function takes the place it writes to and
returns what is there afterwards. In place, pointers of the destination are followed; otherwise
storage comes from `malloc`. As in the serializer, `recur` stands for the overloads.
-/
namespace XrTransport.Serialization

/-- `DeserializeContext`, without the stream. -/
structure DeserializeContext where
  /-- `in_place`. -/
  inPlace : Bool := false
  /-- `time_offset`, local minus remote, in two's complement. -/
  timeOffset : UInt64 := 0
deriving DecidableEq, Repr

/-- The platform the code runs on. -/
structure Platform where
  /-- `NDEBUG`: assertions are compiled out. -/
  ndebug : Bool
  /-- The sizes for which `malloc` returns a block. -/
  malloc : Nat → Bool

/-- Write to a place. -/
def store (place value : Value) : Decoder Raised Value :=
  match place with
  | .outside => .stop .fault
  | _ => pure value

/-- `asio::read` of an object that is no struct. A short payload is copied as far as it goes before
the error is raised, so a place that does not exist is written to unless nothing is left. -/
def deserializePlain (size : Nat) (place : Value) : Decoder Raised Value := fun bytes =>
  match place, size, bytes with
  | .outside, _ + 1, _ :: _ => .stopped .fault
  | _, _, _ => (Value.plain <$> Decoder.word size Raised.endOfFile) bytes

/-- `deserialize_time`, through a local variable. -/
def deserializeTime (ctx : DeserializeContext) (place : Value) : Decoder Raised Value := do
  let remoteTime ← Decoder.word 8 Raised.endOfFile
  store place (.plain (UInt64.ofNat remoteTime + ctx.timeOffset).toNat)

/-- `deserialize_array`: the elements there are, then whatever lies behind them. -/
def deserializeArray (element : Value → Decoder Raised Value) :
    Nat → List Value → Decoder Raised (List Value)
  | 0, rest => pure rest
  | len + 1, place :: rest => do
    let value ← element place
    let values ← deserializeArray element len rest
    pure (value :: values)
  | len + 1, [] => do
    let _ ← element .outside
    deserializeArray element len []

/-- `deserialize_array` of a fixed array. -/
def deserializeFixedArray (element : Value → Decoder Raised Value) (extent : Nat)
    (place : Value) : Decoder Raised Value :=
  .aggregate <$> deserializeArray element extent (place.places extent)

/-- A block from `malloc` for some elements; without one there is no place for any of them. -/
def allocate (granted : Bool) (len : Nat) : List Value :=
  if granted then List.replicate len .unset else []

/-- The pointer `malloc` returned, with what was written behind it. -/
def allocated (granted : Bool) (value failed : Value) : Value := if granted then value else failed

/-- The message for a non-zero length in place of a null pointer. -/
def intoNullptr : Raised := .runtimeError "Attempted to deserialize in-place into nullptr"

/-- The message for a zero length in place of an allocated pointer. -/
def nullptrIntoPointer : Raised :=
  .runtimeError "Attempted to deserialize in-place nullptr but pointer is allocated"

/-- The message for a structure in place of a null pointer. -/
def toNullptr : Raised := .runtimeError "Attempted to deserialize in-place to nullptr"

/-- The message for no structure in place of an allocated pointer. -/
def nullptrIntoStruct : Raised :=
  .runtimeError "Attempted to deserialize in-place nullptr into allocated pointer"

section

variable (b : Build) (p : Platform) (ctx : DeserializeContext)

/-- `deserialize_ptr`, whose two overloads differ in constness only. -/
def deserializePtr (size : Nat) (element : Value → Decoder Raised Value) (place : Value) :
    Decoder Raised Value := do
  let len ← Decoder.word 4 Raised.endOfFile
  if len ≠ 0 then
    if ctx.inPlace then
      match place with
      | .null => .raise intoNullptr
      | .block elements => return .block (← deserializeArray element len elements)
      | _ => .stop .fault
    else
      let granted := p.malloc (size * len)
      let values ← deserializeArray element len (allocate granted len)
      store place (allocated granted (.block values) .null)
  else if ctx.inPlace then
    match place with
    | .null => return .null
    | .block _ => .raise nullptrIntoPointer
    | _ => .stop .fault
  else store place .null

variable (recur : String → Value → Decoder Raised Value)

/-- The in-place branch of `deserialize_xr` for a structure type. The overload for pointers to
const structs raises where the other one asserts. -/
def deserializeXrInto (isConst : Bool) (type : Nat) (place : Value) : Decoder Raised Value :=
  match place, b.lookup type with
  | .nullStruct, found =>
    if isConst then .raise toNullptr
    else if p.ndebug then
      match found with
      | none => .stop .fault
      | some struct => do
        let _ ← recur struct.name .outside
        return .nullStruct
    else .stop .fault
  | .chained name object, some struct =>
    if struct.name = name then return .chained name (← recur name object) else .stop .fault
  | _, _ => .stop .fault

/-- The in-place branch of `deserialize_xr` for no structure. -/
def deserializeNoXrInto (isConst : Bool) (place : Value) : Decoder Raised Value :=
  match place with
  | .nullStruct => return .nullStruct
  | .chained _ _ =>
    if isConst then .raise nullptrIntoStruct
    else if p.ndebug then return place
    else .stop .fault
  | _ => .stop .fault

/-- `deserialize_xr`. A structure type without a deserializer is called through a null pointer. -/
def deserializeXr (isConst : Bool) (place : Value) : Decoder Raised Value := do
  let type ← Decoder.word 4 Raised.endOfFile
  if type ≠ typeUnknown then
    if ctx.inPlace then deserializeXrInto b p recur isConst type place
    else
      match b.lookup type with
      | none => .stop .fault
      | some struct =>
        let granted := p.malloc (b.sizeLookup type)
        let object ← recur struct.name (if granted then .unset else .outside)
        store place (allocated granted (.chained struct.name object) .nullStruct)
  else if ctx.inPlace then deserializeNoXrInto p isConst place
  else store place .nullStruct

/-- The in-place branch of `deserialize_xr_array`, which does not check the destination. -/
def deserializeXrArrayInto (count type : Nat) (place : Value) : Decoder Raised Value :=
  match place, b.lookup type with
  | .nullStruct, some struct => do
    let _ ← deserializeArray (recur struct.name) count []
    return .nullStruct
  | .chainedArray name elements, some struct =>
    if struct.name = name then
      return .chainedArray name (← deserializeArray (recur name) count elements)
    else .stop .fault
  | _, _ => .stop .fault

/-- `deserialize_xr_array`, whose two overloads differ in constness only. The pointer is set before
the elements are read, and set to null in both modes when there are none. -/
def deserializeXrArray (place : Value) : Decoder Raised Value := do
  let count ← Decoder.word 4 Raised.endOfFile
  if count ≠ 0 then
    let type ← Decoder.word 4 Raised.endOfFile
    if ctx.inPlace then deserializeXrArrayInto b recur count type place
    else
      let granted := p.malloc (b.sizeLookup type * count)
      let _ ← store place .nullStruct
      match b.lookup type with
      | none => .stop .fault
      | some struct => do
        let elements ← deserializeArray (recur struct.name) count (allocate granted count)
        return allocated granted (.chainedArray struct.name elements) .nullStruct
  else store place .nullStruct

/-- What `deserialize_member` emits for a member. -/
def deserializeMember (member : XrParam) (place : Value) : Decoder Raised Value :=
  match memberKind b member with
  | none => .stop .fault
  | some (.xrArray _) => deserializeXrArray b p ctx recur place
  | some .xr => deserializeXr b p ctx recur (member.qualifier = some "const") place
  | some (.ptr _) => deserializePtr p ctx (b.sizeOf member.type) (recur member.type) place
  | some (.array extent) => deserializeFixedArray (recur member.type) (b.extent extent) place
  | some .time => deserializeTime ctx place
  | some .value => recur member.type place

/-- Members in order, each at its own place. -/
def deserializeMembers : List XrParam → List Value → Decoder Raised (List Value)
  | [], _ => pure []
  | member :: rest, places => do
    let value ← deserializeMember b p ctx recur member (Value.part 0 places)
    let values ← deserializeMembers rest places.tail
    pure (value :: values)

/-- `deserialize_ptr(const_cast<const char**>(&names[i]), ctx)` of a string. -/
def deserializeName (place : Value) : Decoder Raised Value :=
  deserializePtr p ctx 1 (deserializePlain 1) place

/-- The allocation and the loop of the hand-written deserializers over an array of pointers. -/
def deserializeEach (element : Value → Decoder Raised Value) (count place : Value) :
    Decoder Raised Value :=
  match count with
  | .plain len =>
    if ctx.inPlace then
      match place with
      | .block elements => .block <$> deserializeArray element len elements
      | .null => do
        let _ ← deserializeArray element len []
        return .null
      | _ => .stop .fault
    else do
      let granted := p.malloc (len * b.sizeOf "void*")
      let _ ← store place .null
      let values ← deserializeArray element len (allocate granted len)
      return allocated granted (.block values) .null
  | _ => .stop .fault

/-- `deserialize(XrInstanceCreateInfo*)`. -/
def deserializeInstanceCreateInfo (places : List Value) : Decoder Raised Value := do
  let type ← deserializePlain 4 (Value.part 0 places)
  let next ← deserializeXr b p ctx recur true (Value.part 1 places)
  let createFlags ← deserializePlain 8 (Value.part 2 places)
  let applicationInfo ← recur "XrApplicationInfo" (Value.part 3 places)
  let apiLayerCount ← deserializePlain 4 (Value.part 4 places)
  let apiLayerNames ←
    deserializeEach b p ctx (deserializeName p ctx) apiLayerCount (Value.part 5 places)
  let extensionCount ← deserializePlain 4 (Value.part 6 places)
  let extensionNames ←
    deserializeEach b p ctx (deserializeName p ctx) extensionCount (Value.part 7 places)
  return .aggregate [type, next, createFlags, applicationInfo, apiLayerCount, apiLayerNames,
    extensionCount, extensionNames]

/-- `deserialize(XrFrameEndInfo*)`. -/
def deserializeFrameEndInfo (places : List Value) : Decoder Raised Value := do
  let type ← deserializePlain 4 (Value.part 0 places)
  let next ← deserializeXr b p ctx recur true (Value.part 1 places)
  let displayTime ← deserializeTime ctx (Value.part 2 places)
  let environmentBlendMode ← deserializePlain 4 (Value.part 3 places)
  let layerCount ← deserializePlain 4 (Value.part 4 places)
  let layers ←
    deserializeEach b p ctx (deserializeXr b p ctx recur true) layerCount (Value.part 5 places)
  return .aggregate [type, next, displayTime, environmentBlendMode, layerCount, layers]

/-- The overload of `deserialize` for a struct; unlike serializing, base structs are no exception.
-/
def deserializeStruct (struct : XrStruct) (place : Value) : Decoder Raised Value :=
  if struct.name = instanceCreateInfoName then
    deserializeInstanceCreateInfo b p ctx recur (place.places 8)
  else if struct.name = frameEndInfoName then
    deserializeFrameEndInfo b p ctx recur (place.places 6)
  else
    .aggregate <$> deserializeMembers b p ctx recur struct.members
      (place.places struct.members.length)

/-- The overload of `deserialize` for a C type. -/
def deserializeType (type : String) (place : Value) : Decoder Raised Value :=
  match b.findStruct type with
  | none => deserializePlain (b.sizeOf type) place
  | some struct => deserializeStruct b p ctx recur struct place

end

/-- `deserialize` of a value of a C type, with calls nested no deeper than the fuel. -/
def deserialize (b : Build) (p : Platform) (ctx : DeserializeContext) :
    Nat → String → Value → Decoder Raised Value
  | 0 => fun _ _ => .stop .exhausted
  | fuel + 1 => deserializeType b p ctx (deserialize b p ctx fuel)

end XrTransport.Serialization
