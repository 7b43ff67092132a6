import XrTransport.Serialization.RoundTrip

/-!
# Arrays of structs behind a base struct

`serialize_xr_array` writes a structure type for every pointer that is not null, and
`deserialize_xr_array` reads one for every count that is not zero. The two stay in step unless the
pointer is not null and the count on the wire is zero, or the length does not fit the count.
-/
namespace XrTransport.Serialization

variable {b : Build} {p : Platform} {sctx : SerializeContext} {receiver : UInt64}
variable {depth fuel len : Nat}

/-- What `serialize_xr_array` is called with besides a length: a null pointer, or a pointer to at
least that many well-formed structs of one known type, or one to structs of an unknown type. Behind
a pointer that is not null the type of a first struct can be read. -/
inductive XrArrayArgument (b : Build) (depth len : Nat) : Value → Prop
  /-- A null pointer. -/
  | null : XrArrayArgument b depth len .nullStruct
  /-- Structs of a type in the lookup tables. -/
  | known (type : Nat) (struct : XrStruct) (first : Value) (rest : List Value)
      (small : type < wordLimit) (found : b.lookup type = some struct)
      (enough : len ≤ (first :: rest).length)
      (each : ∀ element ∈ first :: rest,
        element.structureType = some type ∧ WellFormed b depth struct.name element) :
      XrArrayArgument b depth len (.chainedArray struct.name (first :: rest))
  /-- Structs of a type in no table. -/
  | unknown (name : String) (type : Nat) (first : Value) (rest : List Value)
      (tagged : first.structureType = some type) (missing : b.lookup type = none) :
      XrArrayArgument b depth len (.chainedArray name (first :: rest))

/-- The structure type of the first struct is in the lookup tables. -/
def FirstKnown (b : Build) (first : Value) : Prop := (first.structureType.bind b.lookup).isSome

instance (first : Value) : Decidable (FirstKnown b first) :=
  inferInstanceAs (Decidable (_ = true))

/-- What should be read: null for a null pointer, for no elements and for structs of an unknown
type, and otherwise as many elements as the length says. -/
def arrivingXrArray (b : Build) (recur : String → Value → Value) (len : Nat) : Value → Value
  | .chainedArray name (first :: rest) =>
    if len = 0 ∨ ¬FirstKnown b first then .nullStruct
    else .chainedArray name (((first :: rest).take len).map (recur name))
  | value => value

/-- Unless writing raises an error, the bytes written in front of any suffix are read back, and the
suffix is left. -/
def InStep (b : Build) (p : Platform) (sctx : SerializeContext) (receiver : UInt64)
    (depth fuel len : Nat) (value : Value) : Prop :=
  (∀ error, (serializeXrArray b sctx (serialize b sctx fuel) len value).stop ≠
      some (.raised error)) →
    ∃ bytes, serializeXrArray b sctx (serialize b sctx fuel) len value = .complete bytes ∧
      ∀ suffix, deserializeXrArray b p { timeOffset := receiver }
          (deserialize b p { timeOffset := receiver } fuel) .unset (bytes ++ suffix) =
        .done (arrivingXrArray b (received b sctx.timeOffset receiver depth) len value) suffix

/-- Where the type of the structs is known, there are elements and their number fits the count. -/
def Counted (b : Build) (len : Nat) : Value → Prop
  | .chainedArray _ (first :: _) => FirstKnown b first → 0 < len ∧ len < wordLimit
  | _ => True

/-- Elements beyond the length are not written. -/
theorem serializeArray_take (element : Value → Written Raised) (len : Nat) (values : List Value) :
    serializeArray element len (values.take len) = serializeArray element len values := by
  induction len generalizing values with
  | zero => rfl
  | succ len ih =>
    cases values with
    | nil => rfl
    | cons value values => simp only [List.take_succ_cons, serializeArray, ih]

/-- Only the low 32 bits of the length count. -/
theorem serializeXrArray_mod (recur : String → Value → Written Raised) (len : Nat) (value : Value) :
    serializeXrArray b sctx recur (len % 2 ^ 32) value =
      serializeXrArray b sctx recur len value := by
  unfold serializeXrArray
  simp only [Nat.mod_mod]

/-- In front of a count of zero there is nothing else to read. -/
theorem deserializeXrArray_zero (reader : String → Value → Decoder Raised Value)
    (suffix : List UInt8) :
    deserializeXrArray b p { timeOffset := receiver } reader .unset (toBytes 4 0 ++ suffix) =
      .done .nullStruct suffix := by
  have read : (deserializeXrArray b p { timeOffset := receiver } reader .unset).Yields
      (toBytes 4 0) (some .nullStruct) := by
    rw [← List.append_nil (toBytes 4 0)]
    refine Decoder.Yields.afterWord Raised.endOfFile (by decide) ?_
    exact Decoder.Yields.pure _
  exact read suffix

section Known

variable {type : Nat} {struct : XrStruct} {first : Value} {rest : List Value}

/-- The first of the structs is known. -/
theorem firstKnown_of_tagged (tagged : first.structureType = some type)
    (found : b.lookup type = some struct) : FirstKnown b first := by
  rw [FirstKnown, tagged, Option.bind_some, found]
  rfl

variable (granted : ∀ size, p.malloc size = true) (small : type < wordLimit)
  (found : b.lookup type = some struct)
  (each : ∀ element ∈ first :: rest,
    element.structureType = some type ∧ WellFormed b depth struct.name element)
  (nested : depth ≤ fuel)

include granted small found each nested

/-- Some elements whose number fits the count are read back. -/
theorem reads_counted (enough : len ≤ (first :: rest).length) (positive : 0 < len)
    (fits : len < wordLimit) :
    ∃ bytes, serializeXrArray b sctx (serialize b sctx fuel) len
        (.chainedArray struct.name (first :: rest)) = .complete bytes ∧
      ∀ suffix, deserializeXrArray b p { timeOffset := receiver }
          (deserialize b p { timeOffset := receiver } fuel) .unset (bytes ++ suffix) =
        .done (.chainedArray struct.name (((first :: rest).take len).map
          (received b sctx.timeOffset receiver depth struct.name))) suffix := by
  obtain ⟨count, rfl⟩ := Nat.exists_eq_succ_of_ne_zero (Nat.ne_of_gt positive)
  have counted : ((first :: rest).take (count + 1)).length = count + 1 :=
    List.length_take_of_le enough
  have wf : WellFormedXrArray b (WellFormed b depth) (some (count + 1))
      (.chainedArray struct.name ((first :: rest).take (count + 1))) := by
    refine ⟨by rw [counted], by rw [counted]; exact positive, by rw [counted]; exact fits,
      type, struct, small, found, rfl, ?_⟩
    intro element member
    exact each element (List.mem_of_mem_take member)
  obtain ⟨len', same, bytes, wrote, read⟩ :=
    travels_xrArray sctx granted
      (carries { timeOffset := receiver } sctx granted depth fuel nested fuel nested) wf
  obtain rfl := Option.some.inj same
  have fresh := read .unset (DeserializeContext.accepts_unset rfl _)
  rw [Value.overlay] at fresh
  refine ⟨bytes, ?_, fresh⟩
  rw [← wrote]
  have tagged := (each first (by simp)).1
  have marker : (count + 1) % 2 ^ 32 = count + 1 := Nat.mod_eq_of_lt fits
  have written :=
    serializeArray_take (serialize b sctx fuel struct.name) (count + 1) (first :: rest)
  rw [List.take_succ_cons] at written
  simp only [serializeXrArray, List.take_succ_cons, tagged, found, marker, written]

omit granted small nested in
/-- A length whose low 32 bits are zero makes the reader stop before the structure type. -/
theorem not_inStep_of_zero (zero : len % 2 ^ 32 = 0) :
    ¬InStep b p sctx receiver depth fuel len (.chainedArray struct.name (first :: rest)) := by
  intro inStep
  have tagged := (each first (by simp)).1
  have wrote : serializeXrArray b sctx (serialize b sctx fuel) len
      (.chainedArray struct.name (first :: rest)) = .complete (toBytes 4 0 ++ toBytes 4 type) := by
    simp only [serializeXrArray, tagged, found, zero, serializeArray, Written.complete_andThen,
      List.append_nil]
  have regular : ∀ error, (serializeXrArray b sctx (serialize b sctx fuel) len
      (.chainedArray struct.name (first :: rest))).stop ≠ some (.raised error) := by
    intro error raised
    rw [wrote] at raised
    cases raised
  obtain ⟨bytes, wrote', read⟩ := inStep regular
  rw [wrote] at wrote'
  obtain rfl : toBytes 4 0 ++ toBytes 4 type = bytes := congrArg Written.bytes wrote'
  have left := read []
  rw [List.append_nil, deserializeXrArray_zero] at left
  have consumed : toBytes 4 type = [] := (Outcome.done.inj left).2
  have length := congrArg List.length consumed
  rw [length_toBytes] at length
  cases length

/-- A length beyond 32 bits makes the reader stop before the last elements. -/
theorem not_inStep_of_large (enough : len ≤ (first :: rest).length) (large : wordLimit ≤ len)
    (nonzero : len % 2 ^ 32 ≠ 0) :
    ¬InStep b p sctx receiver depth fuel len (.chainedArray struct.name (first :: rest)) := by
  intro inStep
  have fits : len % 2 ^ 32 < wordLimit := Nat.mod_lt _ (by decide)
  have fewer : len % 2 ^ 32 < len := Nat.lt_of_lt_of_le fits large
  obtain ⟨bytes, wrote, read⟩ := @reads_counted _ _ sctx receiver _ _ _ _ _ _ _ granted small
    found each nested (Nat.le_trans (Nat.le_of_lt fewer) enough) (Nat.pos_of_ne_zero nonzero) fits
  rw [serializeXrArray_mod] at wrote
  have regular : ∀ error, (serializeXrArray b sctx (serialize b sctx fuel) len
      (.chainedArray struct.name (first :: rest))).stop ≠ some (.raised error) := by
    intro error raised
    rw [wrote] at raised
    cases raised
  obtain ⟨bytes', wrote', read'⟩ := inStep regular
  obtain rfl : bytes = bytes' := congrArg Written.bytes (wrote.symm.trans wrote')
  have same := (Outcome.done.inj ((read []).symm.trans (read' []))).1
  have known := firstKnown_of_tagged (each first (by simp)).1 found
  have some : ¬(len = 0 ∨ ¬FirstKnown b first) := by
    rintro (zero | unknown)
    · omega
    · exact unknown known
  rw [arrivingXrArray, if_neg some] at same
  have lengths := congrArg List.length (Value.chainedArray.inj same).2
  rw [List.length_map, List.length_map, List.length_take_of_le enough,
    List.length_take_of_le (Nat.le_trans (Nat.le_of_lt fewer) enough)] at lengths
  omega

/-- Structs of a known type stay in step exactly when there are some and their number fits the
count. -/
theorem known_inStep_iff (enough : len ≤ (first :: rest).length) :
    InStep b p sctx receiver depth fuel len (.chainedArray struct.name (first :: rest)) ↔
      0 < len ∧ len < wordLimit := by
  constructor
  · intro inStep
    by_contra uncounted
    by_cases zero : len % 2 ^ 32 = 0
    · exact not_inStep_of_zero found each zero inStep
    · have large : wordLimit ≤ len := by
        by_contra fits
        refine uncounted ⟨Nat.pos_of_ne_zero ?_, Nat.not_le.mp fits⟩
        rintro rfl
        exact zero rfl
      exact not_inStep_of_large granted small found each nested enough large zero inStep
  · rintro ⟨positive, fits⟩ _
    have some : ¬(len = 0 ∨ ¬FirstKnown b first) := by
      rintro (zero | unknown)
      · omega
      · exact unknown (firstKnown_of_tagged (each first (by simp)).1 found)
    rw [arrivingXrArray, if_neg some]
    exact reads_counted granted small found each nested enough positive fits

end Known

/-- A count of zero in place of a null pointer is read back as null. -/
theorem inStep_of_zero_count {value : Value}
    (wrote : serializeXrArray b sctx (serialize b sctx fuel) len value = .complete (toBytes 4 0))
    (arrives :
      arrivingXrArray b (received b sctx.timeOffset receiver depth) len value = .nullStruct) :
    InStep b p sctx receiver depth fuel len value := by
  intro _
  refine ⟨toBytes 4 0, wrote, ?_⟩
  intro suffix
  rw [arrives]
  exact deserializeXrArray_zero _ suffix

/-- Reader and writer of an array of structs behind a base struct stay in step exactly when structs
of a known type are counted: there are some, and their number fits the count. -/
theorem xrArray_inStep_iff (b : Build) (p : Platform) (granted : ∀ size, p.malloc size = true)
    (sctx : SerializeContext) (receiver : UInt64) (depth fuel len : Nat) (nested : depth ≤ fuel)
    (value : Value) (argument : XrArrayArgument b depth len value) :
    InStep b p sctx receiver depth fuel len value ↔ Counted b len value := by
  cases argument with
  | null => exact iff_of_true (inStep_of_zero_count rfl rfl) trivial
  | known type struct first rest small found enough each =>
    have known := firstKnown_of_tagged (each first (by simp)).1 found
    rw [known_inStep_iff granted small found each nested enough]
    exact ⟨fun counted _ => counted, fun counted => counted known⟩
  | unknown name type first rest tagged missing =>
    have unknown : ¬FirstKnown b first := by
      rw [FirstKnown, tagged, Option.bind_some, missing]
      exact Bool.false_ne_true
    refine iff_of_true ?_ fun known => absurd known unknown
    cases skips : sctx.skipUnknownStructs with
    | true =>
      refine inStep_of_zero_count ?_ ?_
      · simp [serializeXrArray, tagged, missing, skips]
      · rw [arrivingXrArray, if_pos (.inr unknown)]
    | false =>
      intro regular
      refine absurd ?_ (regular (unknownInSerialize type))
      simp [serializeXrArray, tagged, missing, skips, Written.stopped]

/-- Two frames without layers, one behind the other. -/
def twoFrames : Value :=
  .chainedArray "XrFrameEndInfo" [emptyFrame,
    .aggregate [.plain 12, .nullStruct, .plain 2000, .plain 2, .plain 0, .null]]

/-- Both are well formed and of one structure type. -/
theorem twoFrames_argument : XrArrayArgument frameEndBuild 2 2 twoFrames := by
  refine .known 12 frameEndInfo emptyFrame _ (by decide) rfl (Nat.le_refl 2) ?_
  intro element member
  have either : element = emptyFrame ∨
      element = .aggregate [.plain 12, .nullStruct, .plain 2000, .plain 2, .plain 0, .null] := by
    simpa using member
  rcases either with rfl | rfl
  · exact ⟨rfl, wellFormed_emptyFrame⟩
  · refine ⟨rfl, ?_⟩
    simp [WellFormed, WellFormedType, WellFormedStruct, WellFormedFrameEndInfo, WellFormedXr,
      WellFormedTime, WellFormedEach, WellFormedPlain, Build.findStruct, frameEndBuild,
      frameEndInfo, instanceCreateInfoName, frameEndInfoName]

/-- Passed with their number they are read back, each at its place. -/
theorem twoFrames_inStep :
    InStep frameEndBuild plentiful {} 0 2 2 2 twoFrames ↔ Counted frameEndBuild 2 twoFrames :=
  xrArray_inStep_iff frameEndBuild plentiful (fun _ => rfl) {} 0 2 2 2 (Nat.le_refl 2) twoFrames
    twoFrames_argument

/-- One frame without layers behind a pointer to a base struct, passed with a length. -/
def oneFrame : Value := .chainedArray "XrFrameEndInfo" [emptyFrame]

/-- It may be passed with the lengths zero and one. -/
theorem oneFrame_argument {len : Nat} (enough : len ≤ 1) :
    XrArrayArgument frameEndBuild 2 len oneFrame := by
  refine .known 12 frameEndInfo emptyFrame [] (by decide) rfl enough ?_
  intro element member
  rw [List.mem_singleton.mp member]
  exact ⟨rfl, wellFormed_emptyFrame⟩

/-- Passed with the length zero it leaves its structure type on the wire: eight bytes are written
and four are read. -/
theorem oneFrame_uncounted_out_of_step :
    XrArrayArgument frameEndBuild 2 0 oneFrame ∧
      serializeXrArray frameEndBuild {} (serialize frameEndBuild {} 2) 0 oneFrame =
        .complete [0, 0, 0, 0, 12, 0, 0, 0] ∧
      deserializeXrArray frameEndBuild plentiful {} (deserialize frameEndBuild plentiful {} 2)
        .unset [0, 0, 0, 0, 12, 0, 0, 0] = .done .nullStruct [12, 0, 0, 0] ∧
      ¬InStep frameEndBuild plentiful {} 0 2 2 0 oneFrame := by
  refine ⟨oneFrame_argument (Nat.zero_le 1), by decide, rfl, ?_⟩
  refine not_inStep_of_zero (rfl : frameEndBuild.lookup 12 = some frameEndInfo) ?_ rfl
  intro element member
  rw [List.mem_singleton.mp member]
  exact ⟨rfl, wellFormed_emptyFrame⟩

end XrTransport.Serialization
