import XrTransport.Serialization.Deserializer

/-!
# Decoding uses a prefix of the payload

What a decoder returned depends on nothing but the bytes it used, and had the payload ended within
these bytes, reading past its end would have been the only error. This holds in both modes and over
any destination. Each library function scans when the overloads it calls do.
-/
namespace XrTransport.Serialization

variable {b : Build} {p : Platform} {ctx : DeserializeContext}

/-- A value of a type that is no struct is read as a whole or not at all. -/
theorem scans_plain (size : Nat) (place : Value) :
    (deserializePlain size place).Scans Raised.endOfFile := by
  have word : (Value.plain <$> Decoder.word size Raised.endOfFile).Scans Raised.endOfFile :=
    (Decoder.Scans.word size).map Value.plain
  by_cases nowhere : place = .outside ∧ size ≠ 0
  · -- Nothing returns from a place that does not exist.
    obtain ⟨rfl, some⟩ := nowhere
    obtain ⟨size, rfl⟩ := Nat.exists_eq_succ_of_ne_zero some
    intro bytes value rest returned
    cases bytes with
    | nil =>
      rw [deserializePlain, Decoder.map_apply] at returned
      · simp [Decoder.word] at returned
      · simp
    | cons byte bytes => simp [deserializePlain] at returned
  · have same : deserializePlain size place =
        Value.plain <$> Decoder.word size Raised.endOfFile := by
      funext bytes
      unfold deserializePlain
      split
      · simp at nowhere
      · rfl
    rw [same]
    exact word

/-- Writing to a place uses nothing. -/
theorem scans_store (place value : Value) : (store place value).Scans Raised.endOfFile := by
  unfold store
  split
  · exact Decoder.Scans.stop _
  · exact Decoder.Scans.pure value

/-- A time is read as a whole or not at all. -/
theorem scans_time (place : Value) : (deserializeTime ctx place).Scans Raised.endOfFile :=
  (Decoder.Scans.word 8).bind fun _ => scans_store _ _

/-- Elements are scanned when one is. -/
theorem scans_array {element : Value → Decoder Raised Value}
    (each : ∀ place, (element place).Scans Raised.endOfFile) (len : Nat) (places : List Value) :
    (deserializeArray element len places).Scans Raised.endOfFile := by
  induction len generalizing places with
  | zero => exact Decoder.Scans.pure places
  | succ len ih =>
    cases places with
    | nil => exact (each .outside).bind fun _ => ih []
    | cons place rest => exact (each place).bind fun value => (ih rest).map (value :: ·)

/-- A counted pointer is scanned when an element behind it is. -/
theorem scans_ptr {element : Value → Decoder Raised Value}
    (each : ∀ place, (element place).Scans Raised.endOfFile) (size : Nat) (place : Value) :
    (deserializePtr p ctx size element place).Scans Raised.endOfFile := by
  refine (Decoder.Scans.word 4).bind fun len => ?_
  by_cases some : len ≠ 0
  · simp only [some, ne_eq, not_false_eq_true, if_true]
    cases ctx.inPlace with
    | true =>
      cases place with
      | null => exact Decoder.Scans.stop _
      | block elements => exact (scans_array each len elements).map Value.block
      | _ => exact Decoder.Scans.stop _
    | false => exact (scans_array each len _).bind fun _ => scans_store _ _
  · simp only [some, if_false]
    cases ctx.inPlace with
    | true =>
      cases place with
      | null => exact Decoder.Scans.pure _
      | block elements => exact Decoder.Scans.stop _
      | _ => exact Decoder.Scans.stop _
    | false => exact scans_store _ _

/-- A string of a hand-written struct is scanned. -/
theorem scans_name (place : Value) : (deserializeName p ctx place).Scans Raised.endOfFile :=
  scans_ptr (fun place => scans_plain 1 place) 1 place

/-- The loops of the hand-written deserializers scan when reading one element does. -/
theorem scans_each {element : Value → Decoder Raised Value}
    (each : ∀ place, (element place).Scans Raised.endOfFile) (count place : Value) :
    (deserializeEach b p ctx element count place).Scans Raised.endOfFile := by
  cases count with
  | plain len =>
    unfold deserializeEach
    cases ctx.inPlace with
    | true =>
      cases place with
      | null => exact (scans_array each len []).map fun _ => Value.null
      | block elements => exact (scans_array each len elements).map Value.block
      | _ => exact Decoder.Scans.stop _
    | false => exact (scans_store _ _).bind fun _ => (scans_array each len _).map _
  | _ => exact Decoder.Scans.stop _

section

variable {recur : String → Value → Decoder Raised Value}
variable (each : ∀ type place, (recur type place).Scans Raised.endOfFile)

include each

/-- A chained struct over an existing chain pointer is scanned when structs are. -/
theorem scans_xrInto (isConst : Bool) (type : Nat) (place : Value) :
    (deserializeXrInto b p recur isConst type place).Scans Raised.endOfFile := by
  unfold deserializeXrInto
  split
  · split
    · exact Decoder.Scans.stop _
    · split
      · split
        · exact Decoder.Scans.stop _
        · exact (each _ .outside).map fun _ => Value.nullStruct
      · exact Decoder.Scans.stop _
  · split
    · exact (each _ _).map (Value.chained _)
    · exact Decoder.Scans.stop _
  · exact Decoder.Scans.stop _

omit each in
/-- No struct over an existing chain pointer uses nothing. -/
theorem scans_noXrInto (isConst : Bool) (place : Value) :
    (deserializeNoXrInto p isConst place).Scans Raised.endOfFile := by
  unfold deserializeNoXrInto
  split
  · exact Decoder.Scans.pure _
  · split
    · exact Decoder.Scans.stop _
    · split
      · exact Decoder.Scans.pure _
      · exact Decoder.Scans.stop _
  · exact Decoder.Scans.stop _

/-- A chained struct is scanned when structs are. -/
theorem scans_xr (isConst : Bool) (place : Value) :
    (deserializeXr b p ctx recur isConst place).Scans Raised.endOfFile := by
  refine (Decoder.Scans.word 4).bind fun type => ?_
  by_cases some : type ≠ typeUnknown
  · simp only [some, ne_eq, not_false_eq_true, if_true]
    cases ctx.inPlace with
    | true => exact scans_xrInto each isConst type place
    | false =>
      cases b.lookup type with
      | none => exact Decoder.Scans.stop _
      | some struct => exact (each struct.name _).bind fun _ => scans_store _ _
  · simp only [some, if_false]
    cases ctx.inPlace with
    | true => exact scans_noXrInto isConst place
    | false => exact scans_store _ _

/-- Structs over an existing pointer to structs are scanned when structs are. -/
theorem scans_xrArrayInto (count type : Nat) (place : Value) :
    (deserializeXrArrayInto b recur count type place).Scans Raised.endOfFile := by
  unfold deserializeXrArrayInto
  split
  · exact (scans_array (each _) count []).map fun _ => Value.nullStruct
  · split
    · exact (scans_array (each _) count _).map (Value.chainedArray _)
    · exact Decoder.Scans.stop _
  · exact Decoder.Scans.stop _

/-- Structs behind a base struct are scanned when structs are. -/
theorem scans_xrArray (place : Value) :
    (deserializeXrArray b p ctx recur place).Scans Raised.endOfFile := by
  refine (Decoder.Scans.word 4).bind fun count => ?_
  by_cases some : count ≠ 0
  · simp only [some, ne_eq, not_false_eq_true, if_true]
    refine (Decoder.Scans.word 4).bind fun type => ?_
    cases ctx.inPlace with
    | true => exact scans_xrArrayInto each count type place
    | false =>
      refine (scans_store _ _).bind fun _ => ?_
      cases b.lookup type with
      | none => exact Decoder.Scans.stop _
      | some struct => exact (scans_array (each struct.name) count _).map _
  · simp only [some, if_false]
    exact scans_store _ _

/-- A member is scanned when values are. -/
theorem scans_member (member : XrParam) (place : Value) :
    (deserializeMember b p ctx recur member place).Scans Raised.endOfFile := by
  unfold deserializeMember
  cases memberKind b member with
  | none => exact Decoder.Scans.stop _
  | some kind =>
    cases kind with
    | xrArray len => exact scans_xrArray each place
    | xr => exact scans_xr each _ place
    | ptr count => exact scans_ptr (each member.type) _ place
    | array extent => exact (scans_array (each member.type) _ _).map Value.aggregate
    | time => exact scans_time place
    | value => exact each member.type place

/-- Members are scanned when values are. -/
theorem scans_members (members : List XrParam) (places : List Value) :
    (deserializeMembers b p ctx recur members places).Scans Raised.endOfFile := by
  induction members generalizing places with
  | nil => exact Decoder.Scans.pure _
  | cons member rest ih =>
    exact (scans_member each member _).bind fun value => (ih places.tail).map (value :: ·)

/-- An `XrInstanceCreateInfo` is scanned when values are. -/
theorem scans_instanceCreateInfo (places : List Value) :
    (deserializeInstanceCreateInfo b p ctx recur places).Scans Raised.endOfFile := by
  refine (scans_plain 4 _).bind fun _ => ?_
  refine (scans_xr each true _).bind fun _ => ?_
  refine (scans_plain 8 _).bind fun _ => ?_
  refine (each "XrApplicationInfo" _).bind fun _ => ?_
  refine (scans_plain 4 _).bind fun _ => ?_
  refine (scans_each scans_name _ _).bind fun _ => ?_
  refine (scans_plain 4 _).bind fun _ => ?_
  exact (scans_each scans_name _ _).map _

/-- An `XrFrameEndInfo` is scanned when values are. -/
theorem scans_frameEndInfo (places : List Value) :
    (deserializeFrameEndInfo b p ctx recur places).Scans Raised.endOfFile := by
  refine (scans_plain 4 _).bind fun _ => ?_
  refine (scans_xr each true _).bind fun _ => ?_
  refine (scans_time _).bind fun _ => ?_
  refine (scans_plain 4 _).bind fun _ => ?_
  refine (scans_plain 4 _).bind fun _ => ?_
  exact (scans_each (scans_xr each true) _ _).map _

/-- A struct is scanned when values are. -/
theorem scans_struct (struct : XrStruct) (place : Value) :
    (deserializeStruct b p ctx recur struct place).Scans Raised.endOfFile := by
  unfold deserializeStruct
  split
  · exact scans_instanceCreateInfo each _
  · split
    · exact scans_frameEndInfo each _
    · exact (scans_members each _ _).map Value.aggregate

end

/-- A value of any type is scanned, in either mode and over any destination. -/
theorem scans_deserialize (b : Build) (p : Platform) (ctx : DeserializeContext) (fuel : Nat) :
    ∀ type place, (deserialize b p ctx fuel type place).Scans Raised.endOfFile := by
  induction fuel with
  | zero => exact fun _ _ => Decoder.Scans.stop _
  | succ fuel ih =>
    intro type place
    change (deserializeType b p ctx (deserialize b p ctx fuel) type place).Scans Raised.endOfFile
    unfold deserializeType
    cases b.findStruct type with
    | none => exact scans_plain _ place
    | some struct => exact scans_struct ih struct place

end XrTransport.Serialization
