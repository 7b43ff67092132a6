import Mathlib.Algebra.Group.Nat.Defs
import XrTransport.Serialization.Value

/-!
# Well-formed values and what arrives of them

A value of a C type is well formed when every member is of its declared type, counted pointers
point to as many elements as their count says, and every chained struct is the one its structure
type names. The index bounds how deep values nest. `received` is the value a receiver builds from
a well-formed one: the same, but for times, for pointers to nothing, and for the arrays of the
hand-written structs.
-/
namespace XrTransport.Serialization

/-- Counts and structure types are written as 32-bit words. -/
def wordLimit : Nat := 256 ^ 4

/-- A value of a type that is no struct fits its size. -/
def WellFormedPlain (size : Nat) : Value → Prop
  | .plain bits => bits < 256 ^ size
  | _ => False

section

variable (b : Build) (typed : String → Value → Prop)

/-- A `next` pointer or a pointer to a base struct. -/
def WellFormedXr : Value → Prop
  | .nullStruct => True
  | .chained name object =>
    ∃ type struct, object.structureType = some type ∧ type < wordLimit ∧
      b.lookup type = some struct ∧ struct.name = name ∧ typed name object
  | _ => False

/-- A pointer behind a base struct to at least one struct, all of one structure type. -/
def WellFormedXrArray (count : Option Nat) : Value → Prop
  | .nullStruct => count.isSome
  | .chainedArray name elements =>
    count = some elements.length ∧ 0 < elements.length ∧ elements.length < wordLimit ∧
      ∃ type struct, type < wordLimit ∧ b.lookup type = some struct ∧ struct.name = name ∧
        ∀ element ∈ elements, element.structureType = some type ∧ typed name element
  | _ => False

/-- A pointer with a count: null, or to exactly that many elements. -/
def WellFormedPtr (element : Value → Prop) (count : Option Nat) : Value → Prop
  | .null => count.isSome
  | .block elements =>
    count = some elements.length ∧ elements.length < wordLimit ∧ ∀ x ∈ elements, element x
  | _ => False

/-- An array of pointers of a hand-written struct, which is only read as far as its count. -/
def WellFormedEach (element : Value → Prop) : Value → Value → Prop
  | .plain count, .null => count = 0
  | .plain count, .block elements => count = elements.length ∧ ∀ x ∈ elements, element x
  | _, _ => False

/-- A time in two's complement. -/
def WellFormedTime : Value → Prop
  | .plain time => time < 2 ^ 64
  | _ => False

/-- A fixed array. -/
def WellFormedArray (element : Value → Prop) (extent : Nat) : Value → Prop
  | .aggregate elements => elements.length = extent ∧ ∀ x ∈ elements, element x
  | _ => False

/-- A member of the struct or parameter list at hand. -/
def WellFormedMember (members : List XrParam) (values : List Value) (member : XrParam)
    (value : Value) : Prop :=
  match memberKind b member with
  | none => False
  | some (.xrArray len) =>
    WellFormedXrArray b typed (countOf members values value (.sibling len)) value
  | some .xr => WellFormedXr b typed value
  | some (.ptr count) =>
    WellFormedPtr (typed member.type) (countOf members values value count) value
  | some (.array extent) => WellFormedArray (typed member.type) (b.extent extent) value
  | some .time => WellFormedTime value
  | some .value => typed member.type value

/-- As many values as members, each of its member's type. -/
def WellFormedMembers (members : List XrParam) (values : List Value) :
    List XrParam → List Value → Prop
  | [], [] => True
  | member :: rest, value :: others =>
    WellFormedMember b typed members values member value ∧
      WellFormedMembers members values rest others
  | _, _ => False

/-- A string of a hand-written struct. -/
def WellFormedName (name : Value) : Prop :=
  WellFormedPtr (WellFormedPlain 1) (countNullTerminated name) name

/-- The members of an `XrInstanceCreateInfo`. -/
def WellFormedInstanceCreateInfo : List Value → Prop
  | [type, next, createFlags, applicationInfo, enabledApiLayerCount, enabledApiLayerNames,
      enabledExtensionCount, enabledExtensionNames] =>
    WellFormedPlain 4 type ∧ WellFormedXr b typed next ∧ WellFormedPlain 8 createFlags ∧
      typed "XrApplicationInfo" applicationInfo ∧ WellFormedPlain 4 enabledApiLayerCount ∧
      WellFormedEach WellFormedName enabledApiLayerCount enabledApiLayerNames ∧
      WellFormedPlain 4 enabledExtensionCount ∧
      WellFormedEach WellFormedName enabledExtensionCount enabledExtensionNames
  | _ => False

/-- The members of an `XrFrameEndInfo`. -/
def WellFormedFrameEndInfo : List Value → Prop
  | [type, next, displayTime, environmentBlendMode, layerCount, layers] =>
    WellFormedPlain 4 type ∧ WellFormedXr b typed next ∧ WellFormedTime displayTime ∧
      WellFormedPlain 4 environmentBlendMode ∧ WellFormedPlain 4 layerCount ∧
      WellFormedEach (WellFormedXr b typed) layerCount layers
  | _ => False

/-- A struct; a base struct is never held by value. -/
def WellFormedStruct (struct : XrStruct) : Value → Prop
  | .aggregate values =>
    struct.header = false ∧
      if struct.name = instanceCreateInfoName then WellFormedInstanceCreateInfo b typed values
      else if struct.name = frameEndInfoName then WellFormedFrameEndInfo b typed values
      else WellFormedMembers b typed struct.members values struct.members values
  | _ => False

/-- A value of a C type whose parts are well formed. -/
def WellFormedType (type : String) (value : Value) : Prop :=
  match b.findStruct type with
  | none => WellFormedPlain (b.sizeOf type) value
  | some struct => WellFormedStruct b typed struct value

end

/-- A value of a C type that nests no deeper than the index. -/
def WellFormed (b : Build) : Nat → String → Value → Prop
  | 0 => fun _ _ => False
  | depth + 1 => WellFormedType b (WellFormed b depth)

/-- A number that fits a type that is no struct is well formed. -/
theorem wellFormed_plain {b : Build} {depth bits : Nat} {type : String}
    (plain : b.findStruct type = none) (fits : bits < 256 ^ b.sizeOf type) :
    WellFormed b (depth + 1) type (.plain bits) := by
  show WellFormedType b (WellFormed b depth) type (.plain bits)
  simp only [WellFormedType, plain, WellFormedPlain]
  exact fits

section

variable {b : Build} {typed typed' : String → Value → Prop}

/-- A well-formed counted pointer stays so for elements of which less is asked. -/
theorem WellFormedPtr.mono {element element' : Value → Prop} {count : Option Nat} {value : Value}
    (weaker : ∀ x, element x → element' x) (wf : WellFormedPtr element count value) :
    WellFormedPtr element' count value := by
  cases value with
  | null => exact wf
  | block elements => exact ⟨wf.1, wf.2.1, fun x member => weaker x (wf.2.2 x member)⟩
  | _ => exact wf.elim

/-- So does an array of pointers of a hand-written struct. -/
theorem WellFormedEach.mono {element element' : Value → Prop} {count value : Value}
    (weaker : ∀ x, element x → element' x) (wf : WellFormedEach element count value) :
    WellFormedEach element' count value := by
  cases count with
  | plain len =>
    cases value with
    | null => exact wf
    | block elements => exact ⟨wf.1, fun x member => weaker x (wf.2 x member)⟩
    | _ => exact wf.elim
  | _ => exact wf.elim

/-- So does a fixed array. -/
theorem WellFormedArray.mono {element element' : Value → Prop} {extent : Nat} {value : Value}
    (weaker : ∀ x, element x → element' x) (wf : WellFormedArray element extent value) :
    WellFormedArray element' extent value := by
  cases value with
  | aggregate elements => exact ⟨wf.1, fun x member => weaker x (wf.2 x member)⟩
  | _ => exact wf.elim

variable (weaker : ∀ type x, typed type x → typed' type x)

include weaker

/-- So does a chained struct. -/
theorem WellFormedXr.mono {value : Value} (wf : WellFormedXr b typed value) :
    WellFormedXr b typed' value := by
  cases value with
  | nullStruct => exact wf
  | chained name object =>
    obtain ⟨type, struct, tagged, small, found, named, wellTyped⟩ := wf
    exact ⟨type, struct, tagged, small, found, named, weaker name object wellTyped⟩
  | _ => exact wf.elim

/-- So does an array of structs behind a base struct. -/
theorem WellFormedXrArray.mono {count : Option Nat} {value : Value}
    (wf : WellFormedXrArray b typed count value) : WellFormedXrArray b typed' count value := by
  cases value with
  | nullStruct => exact wf
  | chainedArray name elements =>
    obtain ⟨counted, positive, small, type, struct, smallType, found, named, each⟩ := wf
    exact ⟨counted, positive, small, type, struct, smallType, found, named,
      fun x member => ⟨(each x member).1, weaker name x (each x member).2⟩⟩
  | _ => exact wf.elim

/-- So does every kind of member. -/
theorem WellFormedMember.mono {members : List XrParam} {values : List Value} {member : XrParam}
    {value : Value} (wf : WellFormedMember b typed members values member value) :
    WellFormedMember b typed' members values member value := by
  unfold WellFormedMember at wf ⊢
  cases known : memberKind b member with
  | none => simp [known] at wf
  | some kind =>
    simp only [known] at wf ⊢
    cases kind with
    | xrArray len => exact WellFormedXrArray.mono weaker wf
    | xr => exact WellFormedXr.mono weaker wf
    | ptr count => exact wf.mono (weaker member.type)
    | array extent => exact wf.mono (weaker member.type)
    | time => exact wf
    | value => exact weaker member.type value wf

/-- So do all members. -/
theorem WellFormedMembers.mono {members : List XrParam} {values : List Value} {rest : List XrParam}
    {others : List Value} (wf : WellFormedMembers b typed members values rest others) :
    WellFormedMembers b typed' members values rest others := by
  induction rest generalizing others with
  | nil =>
    cases others with
    | nil => exact wf
    | cons value others => exact wf.elim
  | cons member rest ih =>
    cases others with
    | nil => exact wf.elim
    | cons value others => exact ⟨WellFormedMember.mono weaker wf.1, ih wf.2⟩

/-- So does a struct. -/
theorem WellFormedStruct.mono {struct : XrStruct} {value : Value}
    (wf : WellFormedStruct b typed struct value) : WellFormedStruct b typed' struct value := by
  cases value with
  | aggregate values =>
    obtain ⟨notHeader, wf⟩ := wf
    refine ⟨notHeader, ?_⟩
    by_cases instanceCreate : struct.name = instanceCreateInfoName
    · simp only [instanceCreate, if_true] at wf ⊢
      unfold WellFormedInstanceCreateInfo at wf ⊢
      split at wf
      · obtain ⟨type, next, createFlags, application, rest⟩ := wf
        exact ⟨type, WellFormedXr.mono weaker next, createFlags, weaker _ _ application, rest⟩
      · exact wf.elim
    · simp only [instanceCreate, if_false] at wf ⊢
      by_cases frameEnd : struct.name = frameEndInfoName
      · simp only [frameEnd, if_true] at wf ⊢
        unfold WellFormedFrameEndInfo at wf ⊢
        split at wf
        · obtain ⟨type, next, displayTime, blendMode, layerCount, layers⟩ := wf
          exact ⟨type, WellFormedXr.mono weaker next, displayTime, blendMode, layerCount,
            layers.mono fun _ wf => WellFormedXr.mono weaker wf⟩
        · exact wf.elim
      · simp only [frameEnd, if_false] at wf ⊢
        exact WellFormedMembers.mono weaker wf
  | _ => exact wf.elim

end

/-- What nests no deeper than an index nests no deeper than a greater one. -/
theorem wellFormed_mono {b : Build} {depth more : Nat} (le : depth ≤ more) {type : String}
    {value : Value} (wf : WellFormed b depth type value) : WellFormed b more type value := by
  induction depth generalizing more type value with
  | zero => exact wf.elim
  | succ depth ih =>
    obtain ⟨more, rfl⟩ := Nat.exists_eq_succ_of_ne_zero (Nat.ne_of_gt (Nat.zero_lt_of_lt le))
    have wf : WellFormedType b (WellFormed b depth) type value := wf
    show WellFormedType b (WellFormed b more) type value
    unfold WellFormedType at wf ⊢
    cases found : b.findStruct type with
    | none => simpa only [found] using wf
    | some struct =>
      simp only [found] at wf ⊢
      exact WellFormedStruct.mono (fun _ _ wf => ih (Nat.le_of_succ_le_succ le) wf) wf

/-- A local time `t` sent with offset `sender` and received with offset `receiver`. -/
def translateTime (sender receiver : UInt64) (time : Nat) : Nat :=
  (UInt64.ofNat time - sender + receiver).toNat

section

variable (b : Build) (sender receiver : UInt64) (recur : String → Value → Value)

/-- A counted pointer: one to no elements arrives as null. -/
def receivedPtr (element : Value → Value) : Value → Value
  | .block [] => .null
  | .block elements => .block (elements.map element)
  | value => value

/-- A chained struct. -/
def receivedXr : Value → Value
  | .chained name object => .chained name (recur name object)
  | value => value

/-- An array of structs behind a base struct. -/
def receivedXrArray : Value → Value
  | .chainedArray name elements => .chainedArray name (elements.map (recur name))
  | value => value

/-- An array of pointers of a hand-written struct arrives as an array, if null as an empty one. -/
def receivedEach (element : Value → Value) : Value → Value
  | .null => .block []
  | .block elements => .block (elements.map element)
  | value => value

/-- A time by value. -/
def receivedTime : Value → Value
  | .plain time => .plain (translateTime sender receiver time)
  | value => value

/-- A fixed array. -/
def receivedArray (element : Value → Value) : Value → Value
  | .aggregate elements => .aggregate (elements.map element)
  | value => value

/-- A member. -/
def receivedMember (member : XrParam) (value : Value) : Value :=
  match memberKind b member with
  | none => value
  | some (.xrArray _) => receivedXrArray recur value
  | some .xr => receivedXr recur value
  | some (.ptr _) => receivedPtr (recur member.type) value
  | some (.array _) => receivedArray (recur member.type) value
  | some .time => receivedTime sender receiver value
  | some .value => recur member.type value

/-- Members in order. -/
def receivedMembers : List XrParam → List Value → List Value
  | member :: rest, value :: others =>
    receivedMember b sender receiver recur member value :: receivedMembers rest others
  | _, _ => []

/-- An `XrInstanceCreateInfo`. -/
def receivedInstanceCreateInfo : List Value → List Value
  | [type, next, createFlags, applicationInfo, enabledApiLayerCount, enabledApiLayerNames,
      enabledExtensionCount, enabledExtensionNames] =>
    [type, receivedXr recur next, createFlags, recur "XrApplicationInfo" applicationInfo,
      enabledApiLayerCount, receivedEach (receivedPtr id) enabledApiLayerNames,
      enabledExtensionCount, receivedEach (receivedPtr id) enabledExtensionNames]
  | values => values

/-- An `XrFrameEndInfo`. -/
def receivedFrameEndInfo : List Value → List Value
  | [type, next, displayTime, environmentBlendMode, layerCount, layers] =>
    [type, receivedXr recur next, receivedTime sender receiver displayTime,
      environmentBlendMode, layerCount, receivedEach (receivedXr recur) layers]
  | values => values

/-- A struct. -/
def receivedStruct (struct : XrStruct) : Value → Value
  | .aggregate values =>
    .aggregate
      (if struct.name = instanceCreateInfoName then receivedInstanceCreateInfo recur values
      else if struct.name = frameEndInfoName then
        receivedFrameEndInfo sender receiver recur values
      else receivedMembers b sender receiver recur struct.members values)
  | value => value

/-- A value of a C type whose parts arrive as `recur` says. -/
def receivedType (type : String) (value : Value) : Value :=
  match b.findStruct type with
  | none => value
  | some struct => receivedStruct b sender receiver recur struct value

end

/-- What arrives of a value of a C type that nests no deeper than the index. -/
def received (b : Build) (sender receiver : UInt64) : Nat → String → Value → Value
  | 0 => fun _ value => value
  | depth + 1 => receivedType b sender receiver (received b sender receiver depth)

end XrTransport.Serialization
