import XrTransport.Serialization.RoundTrip
import XrTransport.Serialization.Scanning

/-!
# Encodings that are cut short

The serializer throws at a struct of a type it does not know, and what it has written until then
stays. With null pointers in place of these structs it would have written more, so what there is
comes to an end inside of a complete encoding. A decoder runs past the end of every strict prefix of
one.
-/
namespace XrTransport.Serialization

/-- The structure type is given and no table has it. -/
def Build.unlisted (b : Build) (type : Option Nat) : Bool :=
  type.any fun type => (b.lookup type).isNone

mutual

/-- The value with a null pointer for every pointer to structs of a type that is in no table. -/
def Value.onlyListed (b : Build) : Value → Value
  | .aggregate parts => .aggregate (onlyListedAll b parts)
  | .block elements => .block (onlyListedAll b elements)
  | .chained name object =>
    if b.unlisted object.structureType then .nullStruct else .chained name (object.onlyListed b)
  | .chainedArray name elements =>
    if b.unlisted (elements.head?.bind Value.structureType) then .nullStruct
    else .chainedArray name (onlyListedAll b elements)
  | value => value

/-- Part by part. -/
def onlyListedAll (b : Build) : List Value → List Value
  | [] => []
  | value :: values => value.onlyListed b :: onlyListedAll b values

end

variable {b : Build}

/-- Every part on its own. -/
theorem onlyListedAll_eq_map (values : List Value) :
    onlyListedAll b values = values.map (Value.onlyListed b) := by
  induction values with
  | nil => rfl
  | cons value values ih => rw [onlyListedAll, List.map_cons, ih]

namespace Value

/-- A plain value stays as it is. -/
@[simp]
theorem onlyListed_plain (bits : Nat) : (plain bits).onlyListed b = plain bits := rfl

/-- The parts of an object. -/
@[simp]
theorem onlyListed_aggregate (parts : List Value) :
    (aggregate parts).onlyListed b = aggregate (parts.map (onlyListed b)) := by
  rw [onlyListed, onlyListedAll_eq_map]

/-- The elements of a block. -/
@[simp]
theorem onlyListed_block (elements : List Value) :
    (block elements).onlyListed b = block (elements.map (onlyListed b)) := by
  rw [onlyListed, onlyListedAll_eq_map]

/-- A pointer to a struct is kept or becomes null. -/
theorem onlyListed_chained (name : String) (object : Value) :
    (chained name object).onlyListed b = nullStruct ∨
      (chained name object).onlyListed b = chained name (object.onlyListed b) := by
  rw [onlyListed]
  split
  · exact .inl rfl
  · exact .inr rfl

/-- A pointer to an array of structs is kept or becomes null. -/
theorem onlyListed_chainedArray (name : String) (elements : List Value) :
    (chainedArray name elements).onlyListed b = nullStruct ∨
      (chainedArray name elements).onlyListed b =
        chainedArray name (elements.map (onlyListed b)) := by
  rw [onlyListed, onlyListedAll_eq_map]
  split
  · exact .inl rfl
  · exact .inr rfl

/-- Only a plain value becomes one. -/
theorem onlyListed_eq_plain {value : Value} {bits : Nat} :
    value.onlyListed b = plain bits ↔ value = plain bits := by
  cases value with
  | chained name object =>
    rcases onlyListed_chained (b := b) name object with same | same <;> simp [same]
  | chainedArray name elements =>
    rcases onlyListed_chainedArray (b := b) name elements with same | same <;> simp [same]
  | _ => simp [onlyListed]

/-- An object keeps its structure type. -/
theorem structureType_onlyListed (object : Value) :
    (object.onlyListed b).structureType = object.structureType := by
  cases object with
  | aggregate parts =>
    rw [onlyListed_aggregate]
    cases parts with
    | nil => rfl
    | cons first rest =>
      by_cases tagged : ∃ type, first = plain type
      · obtain ⟨type, rfl⟩ := tagged
        rfl
      · have other : ∀ type, first.onlyListed b ≠ plain type :=
          fun type same => tagged ⟨type, onlyListed_eq_plain.mp same⟩
        have untagged : ∀ {head : Value}, (∀ type, head ≠ plain type) → ∀ {tail : List Value},
            (aggregate (head :: tail)).structureType = none := by
          intro head different tail
          unfold structureType
          split
          next same => simp_all
          · rfl
        rw [List.map_cons, untagged other, untagged fun type same => tagged ⟨type, same⟩]
  | chained name object =>
    rcases onlyListed_chained (b := b) name object with same | same <;> rw [same] <;> rfl
  | chainedArray name elements =>
    rcases onlyListed_chainedArray (b := b) name elements with same | same <;> rw [same] <;> rfl
  | _ => rfl

end Value

/-- Strings are as long as they were. -/
theorem terminated_onlyListed (elements : List Value) :
    terminated (elements.map (Value.onlyListed b)) = terminated elements := by
  induction elements with
  | nil => rfl
  | cons first rest ih =>
    cases first with
    | plain bits =>
      cases bits with
      | zero => rfl
      | succ bits => simp [terminated, ih]
    | chained name object =>
      rcases Value.onlyListed_chained (b := b) name object with same | same <;>
        simp [same, terminated]
    | chainedArray name elements =>
      rcases Value.onlyListed_chainedArray (b := b) name elements with same | same <;>
        simp [same, terminated]
    | _ => simp [Value.onlyListed, terminated]

/-- A pointer counts as many elements as before. -/
theorem countNullTerminated_onlyListed (pointer : Value) :
    countNullTerminated (pointer.onlyListed b) = countNullTerminated pointer := by
  cases pointer with
  | block elements => simp [countNullTerminated, terminated_onlyListed]
  | chained name object =>
    rcases Value.onlyListed_chained (b := b) name object with same | same <;> rw [same] <;> rfl
  | chainedArray name elements =>
    rcases Value.onlyListed_chainedArray (b := b) name elements with same | same <;>
      rw [same] <;> rfl
  | _ => rfl

/-- The named member of the members. -/
theorem sibling_onlyListed (members : List XrParam) (values : List Value) (name : String) :
    sibling members (values.map (Value.onlyListed b)) name =
      (sibling members values name).map (Value.onlyListed b) := by
  induction members generalizing values with
  | nil => rfl
  | cons member members ih =>
    cases values with
    | nil => rfl
    | cons value values =>
      have rest := ih values
      simp only [sibling] at rest ⊢
      by_cases named : member.name = name
      · simp [named]
      · simp only [List.map_cons, List.zip_cons_cons]
        rw [List.find?_cons_of_neg (by simpa using named),
          List.find?_cons_of_neg (by simpa using named)]
        exact rest

/-- Every count expression has the value it had. -/
theorem countOf_onlyListed (members : List XrParam) (values : List Value) (pointer : Value)
    (count : Count) :
    countOf members (values.map (Value.onlyListed b)) (pointer.onlyListed b) count =
      countOf members values pointer count := by
  cases count with
  | one => rfl
  | nullTerminated => exact countNullTerminated_onlyListed pointer
  | sibling name =>
    rw [countOf, countOf, sibling_onlyListed]
    cases sibling members values name with
    | none => rfl
    | some value =>
      cases value with
      | chained name object =>
        rcases Value.onlyListed_chained (b := b) name object with same | same <;> simp [same]
      | chainedArray name elements =>
        rcases Value.onlyListed_chainedArray (b := b) name elements with same | same <;> simp [same]
      | _ => rfl

/-- Writing a value is cut where a struct of an unlisted type comes. -/
def IsCut (b : Build) (write : Value → Written Raised) : Prop :=
  ∀ value, (write value).CutOf (write (value.onlyListed b))

/-- A plain value is not cut. -/
theorem isCut_plain (size : Nat) : IsCut b (serializePlain size) := by
  intro value
  cases value with
  | plain bits => exact .complete _
  | _ => exact .fault _

/-- A time is not cut. -/
theorem isCut_time (ctx : SerializeContext) : IsCut b (serializeTime ctx) := by
  intro value
  cases value with
  | plain bits => exact .complete _
  | _ => exact .fault _

/-- Elements are cut where one of them is. -/
theorem isCut_array {element : Value → Written Raised} (each : IsCut b element) (len : Nat)
    (elements : List Value) :
    (serializeArray element len elements).CutOf
      (serializeArray element len (elements.map (Value.onlyListed b))) := by
  induction len generalizing elements with
  | zero => exact .complete []
  | succ len ih =>
    cases elements with
    | nil => exact .fault _
    | cons first rest => exact (each first).andThen (ih rest)

/-- A fixed array is cut where an element is. -/
theorem isCut_fixedArray {element : Value → Written Raised} (each : IsCut b element)
    (extent : Nat) : IsCut b (serializeFixedArray element extent) := by
  intro value
  cases value with
  | aggregate elements =>
    rw [Value.onlyListed_aggregate]
    exact isCut_array each extent elements
  | _ => exact .fault _

/-- What a counted pointer points to is cut where an element is. -/
theorem isCut_ptr {element : Value → Written Raised} (each : IsCut b element) (len : Nat) :
    IsCut b (serializePtr element len) := by
  intro value
  cases value with
  | null => exact .complete _
  | block elements =>
    rw [Value.onlyListed_block]
    refine Written.CutOf.andThen (.complete _) ?_
    by_cases some : len % 2 ^ 32 ≠ 0
    · rw [if_pos some, if_pos some]
      exact isCut_array each len elements
    · rw [if_neg some, if_neg some]
      exact .complete []
  | _ => exact .fault _

/-- A string of a hand-written struct is not cut. -/
theorem isCut_name : IsCut b serializeName := by
  intro name
  unfold serializeName
  rw [countNullTerminated_onlyListed]
  cases countNullTerminated name with
  | none => exact .fault _
  | some len => exact isCut_ptr (isCut_plain 1) len name

/-- The loops of the hand-written serializers are cut where an element is. -/
theorem isCut_each {element : Value → Written Raised} (each : IsCut b element)
    (count pointer : Value) :
    (serializeEach element count pointer).CutOf
      (serializeEach element (count.onlyListed b) (pointer.onlyListed b)) := by
  cases count with
  | plain len =>
    cases len with
    | zero => exact .complete []
    | succ len =>
      cases pointer with
      | block elements =>
        rw [Value.onlyListed_block]
        exact isCut_array each (len + 1) elements
      | _ => exact .fault _
  | _ => exact .fault _

section

variable {ctx : SerializeContext} {recur : String → Value → Written Raised}
variable (strict : ctx.skipUnknownStructs = false) (each : ∀ type, IsCut b (recur type))

include strict each

/-- A chained struct of an unlisted type is an error in place of a null pointer. -/
theorem isCut_xr : IsCut b (serializeXr b ctx recur) := by
  intro value
  cases value with
  | nullStruct => exact .complete _
  | chained name object =>
    cases tagged : object.structureType with
    | none =>
      have fault : serializeXr b ctx recur (.chained name object) = .stopped .fault := by
        unfold serializeXr
        split
        · contradiction
        next same =>
          obtain ⟨-, rfl⟩ := Value.chained.inj same
          simp [Value.structureType] at tagged
        · rfl
      rw [fault]
      exact .fault _
    | some type =>
      obtain ⟨rest, rfl⟩ := Value.structureType_eq_some tagged
      cases found : b.lookup type with
      | none =>
        have null : (Value.chained name (.aggregate (.plain type :: rest))).onlyListed b =
            .nullStruct := by
          simp [Value.onlyListed, Build.unlisted, tagged, found]
        have error : serializeXr b ctx recur (.chained name (.aggregate (.plain type :: rest))) =
            .stopped (.raised (unknownInSerialize type)) := by
          cases rest <;> simp [serializeXr, found, strict]
        rw [null, error]
        exact .raised _ (by simp [toBytes])
      | some struct =>
        have kept : (Value.chained name (.aggregate (.plain type :: rest))).onlyListed b =
            .chained name (.aggregate (.plain type :: rest.map (Value.onlyListed b))) := by
          rw [Value.onlyListed]
          simp [Build.unlisted, tagged, found]
        rw [kept, serializeXr_registered b ctx recur name found,
          serializeXr_registered b ctx recur name found]
        refine Written.CutOf.andThen (.complete _) ?_
        have object := each struct.name (.aggregate (.plain type :: rest))
        rw [Value.onlyListed_aggregate] at object
        exact object
  | _ => exact .fault _

/-- An array of structs of an unlisted type is an error in place of a null pointer. -/
theorem isCut_xrArray (len : Nat) : IsCut b (serializeXrArray b ctx recur len) := by
  intro value
  cases value with
  | nullStruct => exact .complete _
  | chainedArray name elements =>
    cases elements with
    | nil => exact .fault _
    | cons first rest =>
      cases tagged : first.structureType with
      | none =>
        have fault : serializeXrArray b ctx recur len (.chainedArray name (first :: rest)) =
            .stopped .fault := by
          simp [serializeXrArray, tagged]
        rw [fault]
        exact .fault _
      | some type =>
        cases found : b.lookup type with
        | none =>
          have null : (Value.chainedArray name (first :: rest)).onlyListed b = .nullStruct := by
            simp [Value.onlyListed, Build.unlisted, tagged, found]
          have error : serializeXrArray b ctx recur len (.chainedArray name (first :: rest)) =
              .stopped (.raised (unknownInSerialize type)) := by
            simp [serializeXrArray, tagged, found, strict]
          rw [null, error]
          exact .raised _ (by simp [toBytes])
        | some struct =>
          have kept : (Value.chainedArray name (first :: rest)).onlyListed b =
              .chainedArray name ((first :: rest).map (Value.onlyListed b)) := by
            rw [Value.onlyListed, onlyListedAll_eq_map]
            simp [Build.unlisted, tagged, found]
          rw [kept]
          simp only [serializeXrArray, List.map_cons, tagged, found,
            Value.structureType_onlyListed]
          exact Written.CutOf.andThen (.complete _)
            (isCut_array (each struct.name) _ (first :: rest))
  | _ => exact .fault _

/-- A member is cut where its value is. -/
theorem isCut_member (members : List XrParam) (values : List Value) (member : XrParam)
    (value : Value) :
    (serializeMember b ctx recur members values member value).CutOf
      (serializeMember b ctx recur members (values.map (Value.onlyListed b)) member
        (value.onlyListed b)) := by
  unfold serializeMember
  cases memberKind b member with
  | none => exact .fault _
  | some kind =>
    cases kind with
    | xrArray len =>
      simp only [countOf_onlyListed]
      cases countOf members values value (.sibling len) with
      | none => exact .fault _
      | some count => exact isCut_xrArray strict each count value
    | xr => exact isCut_xr strict each value
    | ptr count =>
      simp only [countOf_onlyListed]
      cases countOf members values value count with
      | none => exact .fault _
      | some len => exact isCut_ptr (each member.type) len value
    | array extent => exact isCut_fixedArray (each member.type) _ value
    | time => exact isCut_time ctx value
    | value => exact each member.type value

/-- Members are cut where one of them is. -/
theorem isCut_members (members : List XrParam) (values : List Value) (rest : List XrParam)
    (others : List Value) :
    (serializeMembers b ctx recur members values rest others).CutOf
      (serializeMembers b ctx recur members (values.map (Value.onlyListed b)) rest
        (others.map (Value.onlyListed b))) := by
  induction rest generalizing others with
  | nil => exact .complete []
  | cons member rest ih =>
    cases others with
    | nil => exact .fault _
    | cons value others =>
      exact (isCut_member strict each members values member value).andThen (ih others)

/-- An `XrInstanceCreateInfo` is cut where a member is. -/
theorem isCut_instanceCreateInfo (values : List Value) :
    (serializeInstanceCreateInfo b ctx recur values).CutOf
      (serializeInstanceCreateInfo b ctx recur (values.map (Value.onlyListed b))) := by
  unfold serializeInstanceCreateInfo
  split
  · refine (isCut_plain 4 _).andThen ?_
    refine (isCut_xr strict each _).andThen ?_
    refine (isCut_plain 8 _).andThen ?_
    refine (each "XrApplicationInfo" _).andThen ?_
    refine (isCut_plain 4 _).andThen ?_
    refine (isCut_each isCut_name _ _).andThen ?_
    refine (isCut_plain 4 _).andThen ?_
    exact (isCut_each isCut_name _ _).andThen (.complete [])
  · exact .fault _

/-- An `XrFrameEndInfo` is cut where a member is. -/
theorem isCut_frameEndInfo (values : List Value) :
    (serializeFrameEndInfo b ctx recur values).CutOf
      (serializeFrameEndInfo b ctx recur (values.map (Value.onlyListed b))) := by
  unfold serializeFrameEndInfo
  split
  · refine (isCut_plain 4 _).andThen ?_
    refine (isCut_xr strict each _).andThen ?_
    refine (isCut_time ctx _).andThen ?_
    refine (isCut_plain 4 _).andThen ?_
    refine (isCut_plain 4 _).andThen ?_
    exact (isCut_each (isCut_xr strict each) _ _).andThen (.complete [])
  · exact .fault _

/-- A struct is cut where a member is. -/
theorem isCut_struct (struct : XrStruct) : IsCut b (serializeStruct b ctx recur struct) := by
  intro value
  unfold serializeStruct
  split
  · exact isCut_xr strict each value
  · cases value with
    | aggregate values =>
      rw [Value.onlyListed_aggregate]
      dsimp only
      split
      · exact isCut_instanceCreateInfo strict each values
      · split
        · exact isCut_frameEndInfo strict each values
        · exact isCut_members strict each struct.members values struct.members values
    | _ => exact .fault _

end

/-- A value of any type is cut where a struct of an unlisted type comes. -/
theorem isCut_serialize {ctx : SerializeContext} (strict : ctx.skipUnknownStructs = false)
    (fuel : Nat) : ∀ type, IsCut b (serialize b ctx fuel type) := by
  induction fuel with
  | zero => exact fun _ _ => trivial
  | succ fuel ih =>
    intro type value
    show (serializeType b ctx (serialize b ctx fuel) type value).CutOf
      (serializeType b ctx (serialize b ctx fuel) type (value.onlyListed b))
    unfold serializeType
    cases b.findStruct type with
    | none => exact isCut_plain _ value
    | some struct => exact isCut_struct strict ih struct value

end XrTransport.Serialization
