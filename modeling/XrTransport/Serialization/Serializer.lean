import XrTransport.Foundation.Stream
import XrTransport.Serialization.Value

/-!
# The serializer

The library of `serializer.h`, the functions `serializer_impl.mako` generates for the structs of
the registry, and the two hand-written ones. The overload for a C type is found by its name, and
the overloads call each other through the parameter `recur`; `serialize` ties the knot.
-/
namespace XrTransport.Serialization

/-- `SerializeContext`, without the stream. -/
structure SerializeContext where
  /-- `time_offset`, local minus remote, in two's complement. -/
  timeOffset : UInt64 := 0
  /-- `skip_unknown_structs`. -/
  skipUnknownStructs : Bool := false
deriving DecidableEq, Repr

/-- `serialize` of a type that is no struct: its bytes. -/
def serializePlain (size : Nat) : Value → Written Raised
  | .plain bits => .complete (toBytes size bits)
  | _ => .stopped .fault

/-- `serialize_time`. -/
def serializeTime (ctx : SerializeContext) : Value → Written Raised
  | .plain localTime => .complete (toBytes 8 (UInt64.ofNat localTime - ctx.timeOffset).toNat)
  | _ => .stopped .fault

/-- `serialize_array`. -/
def serializeArray (element : Value → Written Raised) : Nat → List Value → Written Raised
  | 0, _ => .complete []
  | len + 1, x :: rest => (element x).andThen (serializeArray element len rest)
  | _ + 1, [] => .stopped .fault

/-- `serialize_array` of a fixed array. -/
def serializeFixedArray (element : Value → Written Raised) (extent : Nat) :
    Value → Written Raised
  | .aggregate elements => serializeArray element extent elements
  | _ => .stopped .fault

/-- `serialize_ptr`: the marker is the length as 32 bits, and zero for a null pointer. -/
def serializePtr (element : Value → Written Raised) (len : Nat) : Value → Written Raised
  | .null => .complete (toBytes 4 0)
  | .block elements =>
    let marker := len % 2 ^ 32
    (Written.complete (toBytes 4 marker)).andThen
      (if marker ≠ 0 then serializeArray element len elements else .complete [])
  | _ => .stopped .fault

/-- The exception for a structure type without a serializer. -/
def unknownInSerialize (type : Nat) : Raised :=
  .unknownXrStructureType ("Unknown XrStructureType in serialize: " ++ structureTypeText type)

section

variable (b : Build) (ctx : SerializeContext) (recur : String → Value → Written Raised)

/-- `serialize_xr`: the structure type, then the struct it names. -/
def serializeXr : Value → Written Raised
  | .nullStruct => .complete (toBytes 4 typeUnknown)
  | .chained _ (.aggregate (.plain type :: rest)) =>
    match b.lookup type with
    | none =>
      if ctx.skipUnknownStructs then
        match rest with
        | next :: _ => serializeXr next
        | [] => .stopped .fault
      else .stopped (.raised (unknownInSerialize type))
    | some struct =>
      (Written.complete (toBytes 4 type)).andThen
        (recur struct.name (.aggregate (.plain type :: rest)))
  | _ => .stopped .fault

/-- A registered struct is written behind its structure type. -/
theorem serializeXr_registered {type : Nat} {struct : XrStruct} (name : String)
    (found : b.lookup type = some struct) (rest : List Value) :
    serializeXr b ctx recur (.chained name (.aggregate (.plain type :: rest))) =
      (Written.complete (toBytes 4 type)).andThen
        (recur struct.name (.aggregate (.plain type :: rest))) := by
  cases rest with
  | nil => simp [serializeXr, found]
  | cons next tail => simp [serializeXr, found]

/-- `serialize_xr_array`: the count, the structure type of the first element, then every element
as that struct. -/
def serializeXrArray (len : Nat) : Value → Written Raised
  | .nullStruct => .complete (toBytes 4 0)
  | .chainedArray _ (first :: rest) =>
    match first.structureType with
    | none => .stopped .fault
    | some type =>
      match b.lookup type with
      | none =>
        if ctx.skipUnknownStructs then .complete (toBytes 4 0)
        else .stopped (.raised (unknownInSerialize type))
      | some struct =>
        let count := len % 2 ^ 32
        (Written.complete (toBytes 4 count ++ toBytes 4 type)).andThen
          (serializeArray (recur struct.name) count (first :: rest))
  | _ => .stopped .fault

/-- What `serialize_member` emits for a member of the struct or parameter list at hand. -/
def serializeMember (members : List XrParam) (values : List Value) (member : XrParam)
    (value : Value) : Written Raised :=
  match memberKind b member with
  | none => .stopped .fault
  | some (.xrArray len) =>
    match countOf members values value (.sibling len) with
    | none => .stopped .fault
    | some count => serializeXrArray b ctx recur count value
  | some .xr => serializeXr b ctx recur value
  | some (.ptr count) =>
    match countOf members values value count with
    | none => .stopped .fault
    | some len => serializePtr (recur member.type) len value
  | some (.array extent) => serializeFixedArray (recur member.type) (b.extent extent) value
  | some .time => serializeTime ctx value
  | some .value => recur member.type value

/-- Members in order; counts are looked up among all members and values of the struct. -/
def serializeMembers (members : List XrParam) (values : List Value) :
    List XrParam → List Value → Written Raised
  | [], _ => .complete []
  | member :: rest, value :: others =>
    (serializeMember b ctx recur members values member value).andThen
      (serializeMembers members values rest others)
  | _ :: _, [] => .stopped .fault

/-- The loops of the hand-written serializers over an array of pointers. -/
def serializeEach (element : Value → Written Raised) (count pointer : Value) : Written Raised :=
  match count, pointer with
  | .plain 0, _ => .complete []
  | .plain len, .block elements => serializeArray element len elements
  | _, _ => .stopped .fault

/-- `serialize_ptr(name, count_null_terminated(name), ctx)` of a string. -/
def serializeName (name : Value) : Written Raised :=
  match countNullTerminated name with
  | none => .stopped .fault
  | some len => serializePtr (serializePlain 1) len name

/-- `serialize(const XrInstanceCreateInfo*)`. -/
def serializeInstanceCreateInfo : List Value → Written Raised
  | [type, next, createFlags, applicationInfo, enabledApiLayerCount, enabledApiLayerNames,
      enabledExtensionCount, enabledExtensionNames] =>
    .all [
      serializePlain 4 type,
      serializeXr b ctx recur next,
      serializePlain 8 createFlags,
      recur "XrApplicationInfo" applicationInfo,
      serializePlain 4 enabledApiLayerCount,
      serializeEach serializeName enabledApiLayerCount enabledApiLayerNames,
      serializePlain 4 enabledExtensionCount,
      serializeEach serializeName enabledExtensionCount enabledExtensionNames]
  | _ => .stopped .fault

/-- `serialize(const XrFrameEndInfo*)`. -/
def serializeFrameEndInfo : List Value → Written Raised
  | [type, next, displayTime, environmentBlendMode, layerCount, layers] =>
    .all [
      serializePlain 4 type,
      serializeXr b ctx recur next,
      serializeTime ctx displayTime,
      serializePlain 4 environmentBlendMode,
      serializePlain 4 layerCount,
      serializeEach (serializeXr b ctx recur) layerCount layers]
  | _ => .stopped .fault

/-- The overload of `serialize` for a struct. A base struct is looked up by its type instead. -/
def serializeStruct (struct : XrStruct) (value : Value) : Written Raised :=
  if struct.header then serializeXr b ctx recur value
  else
    match value with
    | .aggregate values =>
      if struct.name = instanceCreateInfoName then serializeInstanceCreateInfo b ctx recur values
      else if struct.name = frameEndInfoName then serializeFrameEndInfo b ctx recur values
      else serializeMembers b ctx recur struct.members values struct.members values
    | _ => .stopped .fault

/-- The overload of `serialize` for a C type. -/
def serializeType (type : String) (value : Value) : Written Raised :=
  match b.findStruct type with
  | none => serializePlain (b.sizeOf type) value
  | some struct => serializeStruct b ctx recur struct value

end

/-- `serialize` of a value of a C type, with calls nested no deeper than the fuel. -/
def serialize (b : Build) (ctx : SerializeContext) : Nat → String → Value → Written Raised
  | 0 => fun _ _ => .stopped .exhausted
  | fuel + 1 => serializeType b ctx (serialize b ctx fuel)

end XrTransport.Serialization
