import XrTransport.Serialization.Deserializer

/-!
# Decoding terminates

Values held in place nest as deep as the C types do, and every pointer or chained struct is behind
a word of its own, so the payload bounds how deep the calls nest. Each library function runs when
the overloads it calls run: those for types held in place on the same input, those for types behind
a pointer on an input that is shorter by a word.
-/
namespace XrTransport.Serialization

namespace Build

variable (b : Build)

/-- How deep the deepest struct holds others in place. -/
def deepest : Nat := (b.structs.map fun s => b.nesting s.name).foldr max 0

/-- How deep a type holds structs in place; a type that is no struct holds none. -/
def height (type : String) : Nat := if (b.findStruct type).isSome then b.nesting type else 0

/-- Fuel for every input of a length. -/
def fuelFor (bytes : List UInt8) : Nat := (bytes.length + 1) * (b.deepest + 1)

/-- No type is higher than the deepest struct. -/
theorem height_le (type : String) : b.height type ≤ b.deepest := by
  unfold height
  cases found : b.findStruct type with
  | none => simp
  | some s =>
    obtain ⟨member, rfl⟩ := b.findStruct_mem found
    have bound : ∀ depths : List Nat, ∀ d ∈ depths, d ≤ depths.foldr max 0 := by
      intro depths d inside
      induction depths with
      | nil => simp at inside
      | cons first rest ih =>
        simp only [List.foldr_cons]
        rcases List.mem_cons.mp inside with rfl | later
        · exact Nat.le_max_left _ _
        · exact Nat.le_trans (ih later) (Nat.le_max_right _ _)
    simp only [Option.isSome_some, if_true]
    exact bound _ _ (List.mem_map.mpr ⟨s, member, rfl⟩)

/-- What a struct holds in place is lower than itself. -/
theorem height_inline {type inner : String} {s : XrStruct} (found : b.findStruct type = some s)
    (inline : inner ∈ s.inline) : b.height inner < b.height type := by
  obtain ⟨member, rfl⟩ := b.findStruct_mem found
  have lower := b.nested s member inner inline
  unfold height
  rw [found]
  split
  · simpa using lower
  · simp only [Option.isSome_some, if_true]
    omega

end Build

variable {b : Build} {p : Platform} {ctx : DeserializeContext} {limit : Nat}

/-- Reading a value of a type that is no struct runs. -/
theorem runs_plain (size : Nat) (place : Value) :
    (deserializePlain size place).Runs limit := by
  intro bytes fits
  have either : deserializePlain size place bytes = .stopped .fault ∨
      deserializePlain size place bytes =
        (Value.plain <$> Decoder.word size Raised.endOfFile) bytes := by
    unfold deserializePlain
    split
    · exact .inl rfl
    · exact .inr rfl
  obtain fault | read := either
  · rw [fault]
    simp
  · rw [read]
    exact (Decoder.Runs.word limit size Raised.endOfFile).map Value.plain bytes fits

/-- Writing to a place runs. -/
theorem runs_store (place value : Value) : (store place value).Runs limit := by
  unfold store
  split
  · exact Decoder.Runs.stop limit (by simp)
  · exact Decoder.Runs.pure limit value

/-- Reading a time runs. -/
theorem runs_time (place : Value) : (deserializeTime ctx place).Runs limit :=
  Decoder.Runs.afterWord _ fun _ _ => runs_store _ _

/-- Reading elements runs when reading one does. -/
theorem runs_array {element : Value → Decoder Raised Value}
    (each : ∀ place, (element place).Runs limit) (len : Nat) (places : List Value) :
    (deserializeArray element len places).Runs limit := by
  induction len generalizing places with
  | zero => exact Decoder.Runs.pure limit places
  | succ len ih =>
    cases places with
    | nil => exact (each .outside).bind fun _ => ih []
    | cons place rest =>
      refine (each place).bind fun value => ?_
      exact (ih rest).bind fun values => Decoder.Runs.pure limit (value :: values)

/-- Reading a fixed array runs when reading one element does. -/
theorem runs_fixedArray {element : Value → Decoder Raised Value}
    (each : ∀ place, (element place).Runs limit) (extent : Nat) (place : Value) :
    (deserializeFixedArray element extent place).Runs limit :=
  (runs_array each extent _).map Value.aggregate

/-- Reading a counted pointer runs when reading one element behind the count does. -/
theorem runs_ptr {element : Value → Decoder Raised Value} (size : Nat)
    (each : 4 ≤ limit → ∀ place, (element place).Runs (limit - 4)) (place : Value) :
    (deserializePtr p ctx size element place).Runs limit := by
  refine Decoder.Runs.afterWord _ fun len long => ?_
  have fault : (Decoder.stop .fault : Decoder Raised Value).Runs (limit - 4) :=
    Decoder.Runs.stop _ (by simp)
  have raise : ∀ error, (Decoder.raise error : Decoder Raised Value).Runs (limit - 4) :=
    fun _ => Decoder.Runs.stop _ (by simp)
  by_cases some : len ≠ 0
  · simp only [some, ne_eq, not_false_eq_true, if_true]
    split
    · split
      · exact raise _
      · exact (runs_array (each long) len _).map Value.block
      · exact fault
    · exact (runs_array (each long) len _).bind fun _ => runs_store _ _
  · simp only [some, if_false]
    split
    · split
      · exact Decoder.Runs.pure _ _
      · exact raise _
      · exact fault
    · exact runs_store _ _

/-- The loops of the hand-written deserializers run when reading one element does. -/
theorem runs_each {element : Value → Decoder Raised Value}
    (each : ∀ place, (element place).Runs limit) (count place : Value) :
    (deserializeEach b p ctx element count place).Runs limit := by
  have fault : (Decoder.stop .fault : Decoder Raised Value).Runs limit :=
    Decoder.Runs.stop _ (by simp)
  unfold deserializeEach
  split
  · next len =>
    split
    · split
      · exact (runs_array each len _).map Value.block
      · exact (runs_array each len []).bind fun _ => Decoder.Runs.pure _ _
      · exact fault
    · refine (runs_store _ _).bind fun _ => ?_
      exact (runs_array each len _).bind fun _ => Decoder.Runs.pure _ _
  · exact fault

section

variable {recur : String → Value → Decoder Raised Value}
variable (behind : 4 ≤ limit → ∀ type place, (recur type place).Runs (limit - 4))

include behind

/-- Reading a chained struct runs when reading structs behind its type does. -/
theorem runs_xr (isConst : Bool) (place : Value) :
    (deserializeXr b p ctx recur isConst place).Runs limit := by
  refine Decoder.Runs.afterWord _ fun type long => ?_
  have fault : (Decoder.stop .fault : Decoder Raised Value).Runs (limit - 4) :=
    Decoder.Runs.stop _ (by simp)
  have raise : ∀ error, (Decoder.raise error : Decoder Raised Value).Runs (limit - 4) :=
    fun _ => Decoder.Runs.stop _ (by simp)
  by_cases some : type ≠ typeUnknown
  · simp only [some, ne_eq, not_false_eq_true, if_true]
    split
    · unfold deserializeXrInto
      split
      · split
        · exact raise _
        · split
          · split
            · exact fault
            · exact (behind long _ _).bind fun _ => Decoder.Runs.pure _ _
          · exact fault
      · split
        · exact (behind long _ _).bind fun _ => Decoder.Runs.pure _ _
        · exact fault
      · exact fault
    · split
      · exact fault
      · exact (behind long _ _).bind fun _ => runs_store _ _
  · simp only [some, if_false]
    split
    · unfold deserializeNoXrInto
      split
      · exact Decoder.Runs.pure _ _
      · split
        · exact raise _
        · split
          · exact Decoder.Runs.pure _ _
          · exact fault
      · exact fault
    · exact runs_store _ _

/-- Reading structs behind a base struct runs when reading structs behind their type does. -/
theorem runs_xrArray (place : Value) : (deserializeXrArray b p ctx recur place).Runs limit := by
  refine Decoder.Runs.afterWord _ fun count long => ?_
  have fault : (Decoder.stop .fault : Decoder Raised Value).Runs (limit - 4 - 4) :=
    Decoder.Runs.stop _ (by simp)
  have each : ∀ name place, (recur name place).Runs (limit - 4 - 4) :=
    fun name place => (behind long name place).mono (by omega)
  by_cases some : count ≠ 0
  · simp only [some, ne_eq, not_false_eq_true, if_true]
    refine Decoder.Runs.afterWord _ fun type _ => ?_
    split
    · unfold deserializeXrArrayInto
      split
      · exact (runs_array (each _) _ _).bind fun _ => Decoder.Runs.pure _ _
      · split
        · exact (runs_array (each _) _ _).bind fun _ => Decoder.Runs.pure _ _
        · exact fault
      · exact fault
    · refine (runs_store _ _).bind fun _ => ?_
      split
      · exact fault
      · exact (runs_array (each _) _ _).bind fun _ => Decoder.Runs.pure _ _
  · simp only [some, if_false]
    exact runs_store _ _

/-- Reading a member runs when reading what it holds in place does. -/
theorem runs_member (member : XrParam)
    (inside : member.pointer = none → ∀ place, (recur member.type place).Runs limit)
    (place : Value) : (deserializeMember b p ctx recur member place).Runs limit := by
  unfold deserializeMember
  cases known : memberKind b member with
  | none => exact Decoder.Runs.stop _ (by simp)
  | some kind =>
    cases kind with
    | xrArray len => exact runs_xrArray behind place
    | xr => exact runs_xr behind _ place
    | ptr count => exact runs_ptr _ (fun long => behind long member.type) place
    | array extent =>
      exact runs_fixedArray (inside (memberKind_inline known (.inr ⟨extent, rfl⟩))) _ place
    | time => exact runs_time place
    | value => exact inside (memberKind_inline known (.inl rfl)) place

/-- Reading members runs when reading what they hold in place does. -/
theorem runs_members (members : List XrParam)
    (inside : ∀ member ∈ members, member.pointer = none →
      ∀ place, (recur member.type place).Runs limit)
    (places : List Value) : (deserializeMembers b p ctx recur members places).Runs limit := by
  induction members generalizing places with
  | nil => exact Decoder.Runs.pure _ _
  | cons member rest ih =>
    refine (runs_member behind member (inside member (by simp)) _).bind fun value => ?_
    refine (ih (fun m later => inside m (by simp [later])) _).bind fun values => ?_
    exact Decoder.Runs.pure _ _

/-- Reading an `XrInstanceCreateInfo` runs when reading its application info does. -/
theorem runs_instanceCreateInfo
    (inside : ∀ place, (recur "XrApplicationInfo" place).Runs limit) (places : List Value) :
    (deserializeInstanceCreateInfo b p ctx recur places).Runs limit := by
  have name : ∀ place, (deserializeName p ctx place).Runs limit :=
    runs_ptr 1 fun _ place => runs_plain 1 place
  refine (runs_plain _ _).bind fun _ => ?_
  refine (runs_xr behind _ _).bind fun _ => ?_
  refine (runs_plain _ _).bind fun _ => ?_
  refine (inside _).bind fun _ => ?_
  refine (runs_plain _ _).bind fun _ => ?_
  refine (runs_each name _ _).bind fun _ => ?_
  refine (runs_plain _ _).bind fun _ => ?_
  refine (runs_each name _ _).bind fun _ => ?_
  exact Decoder.Runs.pure _ _

/-- Reading an `XrFrameEndInfo` runs when reading structs behind their type does. -/
theorem runs_frameEndInfo (places : List Value) :
    (deserializeFrameEndInfo b p ctx recur places).Runs limit := by
  refine (runs_plain _ _).bind fun _ => ?_
  refine (runs_xr behind _ _).bind fun _ => ?_
  refine (runs_time _).bind fun _ => ?_
  refine (runs_plain _ _).bind fun _ => ?_
  refine (runs_plain _ _).bind fun _ => ?_
  refine (runs_each (runs_xr behind true) _ _).bind fun _ => ?_
  exact Decoder.Runs.pure _ _

/-- Reading a struct runs when reading what it holds in place does. -/
theorem runs_struct (struct : XrStruct)
    (inside : ∀ type ∈ struct.inline, ∀ place, (recur type place).Runs limit) (place : Value) :
    (deserializeStruct b p ctx recur struct place).Runs limit := by
  unfold deserializeStruct
  by_cases instanceCreate : struct.name = instanceCreateInfoName
  · simp only [instanceCreate, if_true]
    exact runs_instanceCreateInfo behind
      (inside _ (by simp [XrStruct.inline, instanceCreate])) _
  · simp only [instanceCreate, if_false]
    split
    · exact runs_frameEndInfo behind _
    · refine (runs_members behind struct.members ?_ _).map Value.aggregate
      intro member held inPlace
      apply inside
      simp only [XrStruct.inline, instanceCreate, if_false, List.mem_map, List.mem_filter]
      exact ⟨member, ⟨held, by simp [inPlace]⟩, rfl⟩

end

/-- Decoding with fuel for the length of the input and the height of the type runs. -/
theorem runs_deserialize (b : Build) (p : Platform) (ctx : DeserializeContext) (fuel : Nat) :
    ∀ limit type, limit * (b.deepest + 1) + b.height type < fuel →
      ∀ place, (deserialize b p ctx fuel type place).Runs limit := by
  induction fuel with
  | zero => exact fun limit type enough => absurd enough (Nat.not_lt_zero _)
  | succ fuel ih =>
    intro limit type enough place
    change (deserializeType b p ctx (deserialize b p ctx fuel) type place).Runs limit
    unfold deserializeType
    cases found : b.findStruct type with
    | none => exact runs_plain _ place
    | some struct =>
      refine runs_struct ?_ struct ?_ place
      · intro long inner place
        refine ih (limit - 4) inner ?_ place
        have bound := b.height_le inner
        have shorter : (limit - 4 + 1) * (b.deepest + 1) ≤ limit * (b.deepest + 1) :=
          Nat.mul_le_mul_right _ (by omega)
        rw [Nat.add_mul] at shorter
        omega
      · intro inner inline place
        have lower := b.height_inline found inline
        exact ih limit inner (by omega) place

/-- With enough fuel for the payload, decoding does not run out of it. -/
theorem deserialize_terminates (b : Build) (p : Platform) (ctx : DeserializeContext)
    (type : String) (place : Value) (bytes : List UInt8) {fuel : Nat}
    (enough : b.fuelFor bytes ≤ fuel) :
    deserialize b p ctx fuel type place bytes ≠ .stopped .exhausted := by
  have bound := b.height_le type
  have fits : bytes.length * (b.deepest + 1) + b.height type < fuel := by
    unfold Build.fuelFor at enough
    rw [Nat.add_mul] at enough
    omega
  have runs := runs_deserialize b p ctx fuel bytes.length type fits place bytes (Nat.le_refl _)
  intro exhausted
  rw [exhausted] at runs
  exact runs rfl

end XrTransport.Serialization
