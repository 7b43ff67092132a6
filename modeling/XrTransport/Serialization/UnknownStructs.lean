import XrTransport.Serialization.Filtering

/-!
# Structs of unknown type

The strict serializer raises an error exactly for the values with a struct of unknown type, and with
`skip_unknown_structs` these structs are left out: what is read back is the value without them.
-/
namespace XrTransport.Serialization

/-- A writer raises an error if something is unknown, and otherwise comes to its end. -/
def RaisesWhen (unknown : Bool) (written : Written Raised) : Prop :=
  if unknown then ∃ error, written.stop = some (.raised error)
  else ∃ bytes, written = .complete bytes

namespace RaisesWhen

/-- Bytes are written without an error. -/
theorem complete (bytes : List UInt8) : RaisesWhen false (.complete bytes) := ⟨bytes, rfl⟩

/-- An error is an error. -/
theorem raised (error : Raised) : RaisesWhen true (.stopped (.raised error)) := ⟨error, rfl⟩

/-- Two writers in order raise an error when one of them does. -/
theorem andThen {unknown unknown' : Bool} {first second : Written Raised}
    (head : RaisesWhen unknown first) (tail : RaisesWhen unknown' second) :
    RaisesWhen (unknown || unknown') (first.andThen second) := by
  cases unknown with
  | true =>
    obtain ⟨error, ended⟩ := head
    refine ⟨error, ?_⟩
    simp only [Written.andThen, ended]
  | false =>
    obtain ⟨bytes, rfl⟩ := head
    cases unknown' with
    | true =>
      obtain ⟨error, ended⟩ := tail
      exact ⟨error, ended⟩
    | false =>
      obtain ⟨bytes', rfl⟩ := tail
      exact ⟨bytes ++ bytes', rfl⟩

/-- It raises an error exactly if something is unknown. -/
theorem raises_iff {unknown : Bool} {written : Written Raised}
    (raises : RaisesWhen unknown written) :
    (∃ error, written.stop = some (.raised error)) ↔ unknown = true := by
  cases unknown with
  | true => exact iff_of_true raises rfl
  | false =>
    obtain ⟨bytes, rfl⟩ := raises
    refine iff_of_false ?_ Bool.false_ne_true
    rintro ⟨error, ended⟩
    cases ended

end RaisesWhen

variable {b : Build}

/-- A well-formed number is written without an error. -/
theorem raises_plain {size : Nat} {value : Value} (wf : WellFormedPlain size value) :
    RaisesWhen (value.hasUnknown b) (serializePlain size value) := by
  cases value with
  | plain bits => exact .complete _
  | _ => exact wf.elim

/-- So is a time. -/
theorem raises_time {ctx : SerializeContext} {value : Value} (wf : WellFormedTime value) :
    RaisesWhen (value.hasUnknown b) (serializeTime ctx value) := by
  cases value with
  | plain bits => exact .complete _
  | _ => exact wf.elim

section Elements

variable {writer : Value → Written Raised} {f : Value → Value} {element : Value → Prop}
  (each : ∀ x, element (f x) → RaisesWhen (x.hasUnknown b) (writer x))

include each

/-- An array raises an error when one of its elements does. -/
theorem raises_array {elements : List Value} (typed : ∀ x ∈ elements.map f, element x) :
    RaisesWhen (anyUnknown b elements) (serializeArray writer elements.length elements) := by
  induction elements with
  | nil => exact .complete []
  | cons first rest ih =>
    have head := each first (typed (f first) (by simp))
    have tail := ih fun x member => typed x (by simp [List.mem_map.mp member])
    exact head.andThen tail

/-- So does a fixed array. -/
theorem raises_fixedArray {extent : Nat} {value : Value}
    (wf : WellFormedArray element extent (value.mapParts f)) :
    RaisesWhen (value.hasUnknown b) (serializeFixedArray writer extent value) := by
  cases value with
  | aggregate elements =>
    obtain ⟨rfl, typed⟩ := wf
    rw [List.length_map]
    exact raises_array each typed
  | _ => exact wf.elim

/-- So does a counted pointer. -/
theorem raises_ptr {count : Option Nat} {value : Value}
    (wf : WellFormedPtr element count (value.mapBlock f)) :
    ∃ len, count = some len ∧ RaisesWhen (value.hasUnknown b) (serializePtr writer len value) := by
  cases value with
  | null =>
    obtain ⟨len, counted⟩ := Option.isSome_iff_exists.mp wf
    exact ⟨len, counted, .complete _⟩
  | block elements =>
    obtain ⟨counted, small, typed⟩ := wf
    rw [List.length_map] at counted small
    refine ⟨elements.length, counted, ?_⟩
    have marker : elements.length % 2 ^ 32 = elements.length := Nat.mod_eq_of_lt small
    have array := raises_array each typed
    have head : RaisesWhen false (.complete (toBytes 4 elements.length)) := .complete _
    simp only [serializePtr, marker]
    show RaisesWhen (false || anyUnknown b elements) _
    refine head.andThen ?_
    split
    · exact array
    next none =>
      obtain rfl : elements = [] := List.length_eq_zero_iff.mp (not_not.mp none)
      exact .complete []
  | _ => exact wf.elim

/-- So does an array of pointers of a hand-written struct. -/
theorem raises_each {count pointer : Value}
    (wf : WellFormedEach element count (pointer.mapBlock f)) :
    RaisesWhen (pointer.hasUnknown b) (serializeEach writer count pointer) := by
  cases count with
  | plain len =>
    cases pointer with
    | null =>
      obtain rfl : len = 0 := wf
      exact .complete []
    | block elements =>
      obtain ⟨rfl, typed⟩ := wf
      rw [List.length_map, serializeEach_block]
      exact raises_array each typed
    | _ => exact wf.elim
  | _ => exact wf.elim

end Elements

/-- The same elements make the same block. -/
theorem mapBlock_id (value : Value) : value.mapBlock id = value := by
  cases value <;> simp [Value.mapBlock]

/-- A string of a hand-written struct is written without an error. -/
theorem raises_name {name : Value} (wf : WellFormedName name) :
    RaisesWhen (name.hasUnknown b) (serializeName name) := by
  have char : ∀ x, WellFormedPlain 1 (id x) →
      RaisesWhen (x.hasUnknown b) (serializePlain 1 x) := fun x plain => raises_plain plain
  have wf : WellFormedPtr (WellFormedPlain 1) (countNullTerminated name) (name.mapBlock id) := by
    rw [mapBlock_id]
    exact wf
  obtain ⟨len, counted, raises⟩ := raises_ptr char wf
  rw [serializeName, counted]
  exact raises

section Structs

variable {ctx : SerializeContext} {writer : String → Value → Written Raised}
  {recur : String → Value → Value} {typed : String → Value → Prop}
  (strict : ctx.skipUnknownStructs = false) (keepsType : KeepsType recur)
  (each : ∀ type value, typed type (recur type value) →
    RaisesWhen (value.hasUnknown b) (writer type value))

include strict keepsType each

/-- A chain raises an error at its first struct of unknown type. -/
theorem raises_xr {value : Value} (wf : WellFormedXr b typed (filteredXr b recur value)) :
    RaisesWhen (value.hasUnknown b) (serializeXr b ctx writer value) := by
  fun_cases filteredXr b recur value with
  | case1 name type missing next tail =>
    have unknown : (Value.chained name (.aggregate (.plain type :: next :: tail))).hasUnknown b =
        true := by
      simp [Value.hasUnknown, Value.structureType, Build.unlisted, missing]
    have error : serializeXr b ctx writer
        (.chained name (.aggregate (.plain type :: next :: tail))) =
          .stopped (.raised (unknownInSerialize type)) := by
      simp [serializeXr, missing, strict]
    rw [unknown, error]
    exact .raised _
  | case2 name type missing =>
    rw [filteredXr, missing] at wf
    exact wf.elim
  | case3 name type rest struct found =>
    have tagged : (Value.aggregate (.plain type :: rest)).structureType = some type := rfl
    have kept := keepsType struct.name _ type tagged
    rw [filteredXr_known found] at wf
    obtain ⟨type', struct', tagged', -, found', rfl, wellTyped⟩ := wf
    obtain rfl : type = type' := Option.some.inj (kept.symm.trans tagged')
    obtain rfl : struct = struct' := Option.some.inj (found.symm.trans found')
    have listed : (Value.chained struct.name (.aggregate (.plain type :: rest))).hasUnknown b =
        (false || (Value.aggregate (.plain type :: rest)).hasUnknown b) := by
      simp [Value.hasUnknown, Value.structureType, Build.unlisted, found]
    rw [listed, serializeXr_tagged ctx writer tagged found]
    exact RaisesWhen.andThen (.complete _) (each _ _ wellTyped)
  | case4 value other =>
    have kept : filteredXr b recur value = value := by
      unfold filteredXr
      split
      · exact (other _ _ _ rfl).elim
      · rfl
    rw [kept] at wf
    cases value with
    | nullStruct => exact .complete _
    | chained name object =>
      obtain ⟨type, struct, tagged, -⟩ := wf
      obtain ⟨rest, rfl⟩ := Value.structureType_eq_some tagged
      exact (other _ _ _ rfl).elim
    | _ => exact wf.elim

/-- So does an array of structs behind a base struct. -/
theorem raises_xrArray {count : Option Nat} {value : Value}
    (wf : WellFormedXrArray b typed count (filteredXrArray b recur value)) :
    ∃ len, count = some len ∧
      RaisesWhen (value.hasUnknown b) (serializeXrArray b ctx writer len value) := by
  cases value with
  | nullStruct =>
    obtain ⟨len, counted⟩ := Option.isSome_iff_exists.mp wf
    exact ⟨len, counted, .complete _⟩
  | chainedArray name elements =>
    cases elements with
    | nil =>
      obtain ⟨-, positive, -⟩ := wf
      cases positive
    | cons first rest =>
      cases tagged : first.structureType with
      | none =>
        simp only [filteredXrArray, tagged] at wf
        obtain ⟨-, -, -, type, struct, -, -, -, all⟩ := wf
        have typedFirst := (all first (by simp)).1
        rw [tagged] at typedFirst
        cases typedFirst
      | some type =>
        cases found : b.lookup type with
        | none =>
          simp only [filteredXrArray, tagged, found] at wf
          obtain ⟨len, counted⟩ := Option.isSome_iff_exists.mp wf
          have unknown : (Value.chainedArray name (first :: rest)).hasUnknown b = true := by
            simp [Value.hasUnknown, Build.unlisted, tagged, found]
          have error : serializeXrArray b ctx writer len (.chainedArray name (first :: rest)) =
              .stopped (.raised (unknownInSerialize type)) := by
            simp [serializeXrArray, tagged, found, strict]
          refine ⟨len, counted, ?_⟩
          rw [unknown, error]
          exact .raised _
        | some struct =>
          simp only [filteredXrArray, tagged, found] at wf
          obtain ⟨counted, -, small, type', struct', -, found', rfl, all⟩ := wf
          rw [List.length_map] at counted small
          have kept := keepsType struct.name first type tagged
          obtain rfl : type = type' :=
            Option.some.inj (kept.symm.trans (all (recur struct.name first) (by simp)).1)
          obtain rfl : struct = struct' := Option.some.inj (found.symm.trans found')
          have array := raises_array (each struct.name) fun x member => (all x member).2
          have marker : (first :: rest).length % 2 ^ 32 = (first :: rest).length :=
            Nat.mod_eq_of_lt small
          have listed : (Value.chainedArray struct.name (first :: rest)).hasUnknown b =
              (false || anyUnknown b (first :: rest)) := by
            simp [Value.hasUnknown, Build.unlisted, tagged, found]
          refine ⟨(first :: rest).length, counted, ?_⟩
          simp only [listed, serializeXrArray, tagged, found, marker]
          exact RaisesWhen.andThen (.complete _) array
  | _ => exact wf.elim

variable (keepsPlain : ∀ type, KeepsPlain (recur type))

include keepsPlain

/-- So does a member. -/
theorem raises_member {members : List XrParam} {values : List Value} {member : XrParam}
    {value : Value}
    (wf : WellFormedMember b typed members (filteredMembers b recur members values) member
      (filteredMember b recur member value)) :
    RaisesWhen (value.hasUnknown b) (serializeMember b ctx writer members values member value) := by
  unfold WellFormedMember filteredMember at wf
  unfold serializeMember
  cases known : memberKind b member with
  | none => simp [known] at wf
  | some kind =>
    simp only [known] at wf ⊢
    cases kind with
    | xrArray len =>
      simp only [countOf_sibling_filteredMembers keepsPlain members values value] at wf
      obtain ⟨count, counted, raises⟩ := raises_xrArray strict keepsType each wf
      simp only [counted]
      exact raises
    | xr => exact raises_xr strict keepsType each wf
    | ptr count =>
      simp only [countOf_filteredMembers keepsPlain members values (keepsPlain member.type)] at wf
      obtain ⟨len, counted, raises⟩ := raises_ptr (each member.type) wf
      simp only [counted]
      exact raises
    | array extent => exact raises_fixedArray (each member.type) wf
    | time => exact raises_time wf
    | value => exact each member.type value wf

/-- So do the members in order. -/
theorem raises_members {members : List XrParam} {values : List Value} (rest : List XrParam)
    (others : List Value)
    (wf : WellFormedMembers b typed members (filteredMembers b recur members values) rest
      (filteredMembers b recur rest others)) :
    RaisesWhen (anyUnknown b others)
      (serializeMembers b ctx writer members values rest others) := by
  induction rest generalizing others with
  | nil =>
    cases others with
    | nil => exact .complete []
    | cons value others => exact wf.elim
  | cons member rest ih =>
    cases others with
    | nil => exact wf.elim
    | cons value others =>
      have first := raises_member strict keepsType each keepsPlain wf.1
      exact first.andThen (ih others wf.2)

omit keepsPlain in
/-- So does an `XrInstanceCreateInfo`. -/
theorem raises_instanceCreateInfo {values : List Value}
    (wf : WellFormedInstanceCreateInfo b typed (filteredInstanceCreateInfo b recur values)) :
    RaisesWhen (anyUnknown b values) (serializeInstanceCreateInfo b ctx writer values) := by
  have names : ∀ count pointer, WellFormedEach WellFormedName count pointer →
      RaisesWhen (pointer.hasUnknown b) (serializeEach serializeName count pointer) := by
    intro count pointer wf
    rw [← mapBlock_id pointer] at wf
    exact raises_each (fun x (wf : WellFormedName (id x)) => raises_name wf) wf
  unfold filteredInstanceCreateInfo at wf
  split at wf
  next type next createFlags applicationInfo layerCount layers extensionCount extensions =>
    obtain ⟨w₀, w₁, w₂, w₃, w₄, w₅, w₆, w₇⟩ := wf
    have h₀ : RaisesWhen (type.hasUnknown b) _ := raises_plain w₀
    have h₁ := raises_xr strict keepsType each w₁
    have h₂ : RaisesWhen (createFlags.hasUnknown b) _ := raises_plain w₂
    have h₃ := each "XrApplicationInfo" applicationInfo w₃
    have h₄ : RaisesWhen (layerCount.hasUnknown b) _ := raises_plain w₄
    have h₅ := names layerCount layers w₅
    have h₆ : RaisesWhen (extensionCount.hasUnknown b) _ := raises_plain w₆
    have h₇ := names extensionCount extensions w₇
    exact h₀.andThen (h₁.andThen (h₂.andThen (h₃.andThen (h₄.andThen (h₅.andThen
      (h₆.andThen (h₇.andThen (.complete []))))))))
  next other =>
    unfold WellFormedInstanceCreateInfo at wf
    split at wf
    · exact (other _ _ _ _ _ _ _ _ rfl).elim
    · exact wf.elim

omit keepsPlain in
/-- So does an `XrFrameEndInfo`. -/
theorem raises_frameEndInfo {values : List Value}
    (wf : WellFormedFrameEndInfo b typed (filteredFrameEndInfo b recur values)) :
    RaisesWhen (anyUnknown b values) (serializeFrameEndInfo b ctx writer values) := by
  unfold filteredFrameEndInfo at wf
  split at wf
  next type next displayTime environmentBlendMode layerCount layers =>
    obtain ⟨w₀, w₁, w₂, w₃, w₄, w₅⟩ := wf
    have h₀ : RaisesWhen (type.hasUnknown b) _ := raises_plain w₀
    have h₁ := raises_xr strict keepsType each w₁
    have h₂ : RaisesWhen (displayTime.hasUnknown b) (serializeTime ctx _) := raises_time w₂
    have h₃ : RaisesWhen (environmentBlendMode.hasUnknown b) _ := raises_plain w₃
    have h₄ : RaisesWhen (layerCount.hasUnknown b) _ := raises_plain w₄
    have chain : ∀ x, WellFormedXr b typed (filteredXr b recur x) →
        RaisesWhen (x.hasUnknown b) (serializeXr b ctx writer x) :=
      fun _ wf => raises_xr strict keepsType each wf
    have h₅ := raises_each chain w₅
    exact h₀.andThen (h₁.andThen (h₂.andThen (h₃.andThen (h₄.andThen (h₅.andThen
      (.complete []))))))
  next other =>
    unfold WellFormedFrameEndInfo at wf
    split at wf
    · exact (other _ _ _ _ _ _ rfl).elim
    · exact wf.elim

/-- So does a struct. -/
theorem raises_struct {struct : XrStruct} {value : Value}
    (wf : WellFormedStruct b typed struct (filteredStruct b recur struct value)) :
    RaisesWhen (value.hasUnknown b) (serializeStruct b ctx writer struct value) := by
  unfold filteredStruct at wf
  unfold serializeStruct
  by_cases header : struct.header = true
  · rw [if_pos header] at wf
    unfold WellFormedStruct at wf
    split at wf
    · rw [header] at wf
      cases wf.1
    · exact wf.elim
  · rw [if_neg header] at wf
    rw [if_neg header]
    cases value with
    | aggregate values =>
      obtain ⟨-, wf⟩ := wf
      dsimp only
      show RaisesWhen (anyUnknown b values) _
      by_cases instanceCreate : struct.name = instanceCreateInfoName
      · simp only [instanceCreate, if_true] at wf ⊢
        exact raises_instanceCreateInfo strict keepsType each wf
      · simp only [instanceCreate, if_false] at wf ⊢
        by_cases frameEnd : struct.name = frameEndInfoName
        · simp only [frameEnd, if_true] at wf ⊢
          exact raises_frameEndInfo strict keepsType each wf
        · simp only [frameEnd, if_false] at wf ⊢
          exact raises_members strict keepsType each keepsPlain _ _ wf
    | _ => exact wf.elim

end Structs

/-- A value that is well formed without its structs of unknown type raises an error exactly if it
has one. -/
theorem raises_serialize {ctx : SerializeContext} (strict : ctx.skipUnknownStructs = false)
    (fuel : Nat) : ∀ type value, WellFormed b fuel type (filtered b fuel type value) →
      RaisesWhen (value.hasUnknown b) (serialize b ctx fuel type value) := by
  induction fuel with
  | zero => exact fun _ _ wf => wf.elim
  | succ fuel ih =>
    intro type value wf
    replace wf : WellFormedType b (WellFormed b fuel) type
        (filteredType b (filtered b fuel) type value) := wf
    show RaisesWhen _ (serializeType b ctx (serialize b ctx fuel) type value)
    unfold WellFormedType filteredType at wf
    unfold serializeType
    cases found : b.findStruct type with
    | none =>
      simp only [found] at wf
      exact raises_plain wf
    | some struct =>
      simp only [found] at wf
      exact raises_struct strict (keepsType_filtered fuel) ih (keepsPlain_filtered fuel) wf

/-- What skipping does to a value: it writes what the strict serializer writes for the filtered
value, so that this value is read back, and the strict serializer raises an error exactly if the
filter has something to leave out. -/
structure SkipsAsFiltered (b : Build) (skipping strict : Value → Written Raised)
    (reader : Value → Decoder Raised Value) (filter arriving : Value → Value) (value : Value) :
    Prop where
  /-- The bytes are those of the filtered value. -/
  same : skipping value = strict (filter value)
  /-- They are read back as the filtered value, in front of any suffix. -/
  reads : ∃ bytes, skipping value = .complete bytes ∧
    ∀ suffix, reader .unset (bytes ++ suffix) = .done (arriving (filter value)) suffix
  /-- Without skipping a struct of unknown type is an error, and nothing else is. -/
  raises : (∃ error, (strict value).stop = some (.raised error)) ↔ value.hasUnknown b = true

/-- Skipping the structs of unknown type is filtering them out, for a value of any type and for a
chain of any length. The value is well formed apart from these structs: without them it is well
formed, and each of them begins with its type and a `next` pointer. -/
theorem skipping_is_filtering (b : Build) (p : Platform) (granted : ∀ size, p.malloc size = true)
    (offset receiver : UInt64) (fuel : Nat) :
    (∀ type value, WellFormed b fuel type (filtered b fuel type value) →
      SkipsAsFiltered b (serialize b ⟨offset, true⟩ fuel type)
        (serialize b ⟨offset, false⟩ fuel type)
        (deserialize b p { timeOffset := receiver } fuel type)
        (filtered b fuel type) (received b offset receiver fuel type) value) ∧
    ∀ value isConst, WellFormedXr b (WellFormed b fuel) (filteredXr b (filtered b fuel) value) →
      SkipsAsFiltered b (serializeXr b ⟨offset, true⟩ (serialize b ⟨offset, true⟩ fuel))
        (serializeXr b ⟨offset, false⟩ (serialize b ⟨offset, false⟩ fuel))
        (deserializeXr b p { timeOffset := receiver }
          (deserialize b p { timeOffset := receiver } fuel) isConst)
        (filteredXr b (filtered b fuel)) (receivedXr (received b offset receiver fuel)) value := by
  constructor
  · intro type value wf
    have same := agrees_serialize (b := b) offset fuel type value
    obtain ⟨bytes, wrote, read⟩ :=
      deserialize_serialize granted wf ⟨offset, false⟩ receiver fuel (Nat.le_refl fuel)
    have raises := @raises_serialize b ⟨offset, false⟩ rfl fuel type value wf
    exact ⟨same, ⟨bytes, same.trans wrote, read⟩, raises.raises_iff⟩
  · intro value isConst wf
    have agree := agrees_serialize (b := b) offset fuel
    have same := @agrees_xr b _ offset _ _ (keepsType_filtered fuel) agree value
    obtain ⟨bytes, wrote, read⟩ := travels_xr (p := p) ⟨offset, false⟩ granted
      (carries { timeOffset := receiver } ⟨offset, false⟩ granted fuel fuel (Nat.le_refl fuel) fuel
        (Nat.le_refl fuel)) isConst wf
    have fresh := read .unset (DeserializeContext.accepts_unset rfl _)
    rw [Value.overlay] at fresh
    have each := @raises_serialize b ⟨offset, false⟩ rfl fuel
    have raises := @raises_xr b ⟨offset, false⟩ _ _ _ rfl (keepsType_filtered fuel) each value wf
    exact ⟨same, ⟨bytes, same.trans wrote, fresh⟩, raises.raises_iff⟩

/-- A frame with a struct of type 98 behind it, which is in no table. -/
def frameBeforeUnknown : Value :=
  .aggregate [.plain 12, .chained "XrUnknown" (.aggregate [.plain 98, .nullStruct, .plain 5]),
    .plain 1000, .plain 1, .plain 0, .null]

/-- The same behind a struct of type 99, which is not in one either. -/
def frameAmongUnknown : Value :=
  .chained "XrUnknown" (.aggregate
    [.plain 99, .chained "XrFrameEndInfo" frameBeforeUnknown, .plain 7])

/-- The frame alone is what is written of both and read back, and without skipping there is an
error. -/
theorem frameAmongUnknown_skips :
    SkipsAsFiltered frameEndBuild (serialize frameEndBuild ⟨0, true⟩ 2 "XrFrameEndInfo")
      (serialize frameEndBuild ⟨0, false⟩ 2 "XrFrameEndInfo")
      (deserialize frameEndBuild plentiful { timeOffset := 0 } 2 "XrFrameEndInfo")
      (filtered frameEndBuild 2 "XrFrameEndInfo") (received frameEndBuild 0 0 2 "XrFrameEndInfo")
      frameBeforeUnknown ∧
    SkipsAsFiltered frameEndBuild
      (serializeXr frameEndBuild ⟨0, true⟩ (serialize frameEndBuild ⟨0, true⟩ 2))
      (serializeXr frameEndBuild ⟨0, false⟩ (serialize frameEndBuild ⟨0, false⟩ 2))
      (deserializeXr frameEndBuild plentiful { timeOffset := 0 }
        (deserialize frameEndBuild plentiful { timeOffset := 0 } 2) true)
      (filteredXr frameEndBuild (filtered frameEndBuild 2))
      (receivedXr (received frameEndBuild 0 0 2)) frameAmongUnknown := by
  have both := skipping_is_filtering frameEndBuild plentiful (fun _ => rfl) 0 0 2
  constructor
  · refine both.1 "XrFrameEndInfo" frameBeforeUnknown ?_
    have left : filtered frameEndBuild 2 "XrFrameEndInfo" frameBeforeUnknown = emptyFrame := rfl
    rw [left]
    exact wellFormed_emptyFrame
  · refine both.2 frameAmongUnknown true ?_
    have left : filteredXr frameEndBuild (filtered frameEndBuild 2) frameAmongUnknown =
        .chained "XrFrameEndInfo" emptyFrame := rfl
    rw [left]
    exact ⟨12, frameEndInfo, rfl, by decide, rfl, rfl, wellFormed_emptyFrame⟩

end XrTransport.Serialization
