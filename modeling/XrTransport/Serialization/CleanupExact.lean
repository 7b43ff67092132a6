import XrTransport.Serialization.Cleanup
import XrTransport.Serialization.RoundTrip

/-!
# What cleaning up frees

Decoding takes counts from the payload and cleaning up takes them from members, so the two agree on
the blocks exactly if the counts in memory cover every element that owns a block, and no element
that is not there has to be read. Each cleaner frees exactly the blocks of what is tidy in this
sense, and what is decoded from the bytes of a well-formed value is tidy.
-/
namespace XrTransport.Serialization

open XrTransport.Path (numbered)

/-- As many elements as the count says are tidy, and those behind them own nothing. -/
def TidyArray (element : Value → Prop) : Nat → List Value → Prop
  | 0, rest => ∀ x ∈ rest, x.blocks = []
  | len + 1, elements =>
    element (Value.part 0 elements) ∧ TidyArray element len elements.tail

/-- A counted pointer: null, or to elements that the count covers. -/
def TidyPtr (element : Value → Prop) (count : Option Nat) : Value → Prop
  | .null => count.isSome
  | .block elements => ∃ len, count = some len ∧ TidyArray element len elements
  | _ => False

/-- An array of pointers of a hand-written struct. -/
def TidyEach (element : Value → Prop) : Value → Value → Prop
  | .plain len, .null => TidyArray element len []
  | .plain len, .block elements => TidyArray element len elements
  | _, _ => False

/-- A string of a hand-written struct. -/
def TidyName (name : Value) : Prop :=
  TidyPtr (fun char => char.blocks = []) (countNullTerminated name) name

section

variable (b : Build) (tidy : String → Value → Prop)

/-- A chain pointer: null, or to the struct that its structure type names. -/
def TidyXr : Value → Prop
  | .nullStruct => True
  | .chained name object =>
    ∃ type struct, object.structureType = some type ∧ b.lookup type = some struct ∧
      struct.name = name ∧ tidy name object
  | _ => False

/-- A pointer to structs of which the first has the structure type that names them, and which the
count covers. -/
def TidyXrArray (count : Option Nat) : Value → Prop
  | .nullStruct => count.isSome
  | .chainedArray name elements =>
    ∃ len type struct, count = some len ∧
      (Value.part 0 elements).structureType = some type ∧ b.lookup type = some struct ∧
      struct.name = name ∧ TidyArray (tidy name) len elements
  | _ => False

/-- A member of the struct or parameter list at hand. -/
def TidyMember (members : List XrParam) (values : List Value) (member : XrParam)
    (value : Value) : Prop :=
  match memberKind b member with
  | none => False
  | some (.xrArray len) =>
    TidyXrArray b tidy (countOf members values value (.sibling len)) value
  | some .xr => TidyXr b tidy value
  | some (.ptr count) => TidyPtr (tidy member.type) (countOf members values value count) value
  | some (.array extent) =>
    ∃ elements, value.partsThere = some elements ∧
      TidyArray (tidy member.type) (b.extent extent) elements
  | some .time => value.blocks = []
  | some .value => tidy member.type value

/-- Members in order, and nothing owned beside them. -/
def TidyMembers (members : List XrParam) (values : List Value) :
    List XrParam → List Value → Prop
  | [], others => ∀ x ∈ others, x.blocks = []
  | member :: rest, others =>
    TidyMember b tidy members values member (Value.part 0 others) ∧
      TidyMembers members values rest others.tail

/-- The members of an `XrInstanceCreateInfo`, whose application info owns nothing. -/
def TidyInstanceCreateInfo : List Value → Prop
  | [type, next, createFlags, applicationInfo, enabledApiLayerCount, enabledApiLayerNames,
      enabledExtensionCount, enabledExtensionNames] =>
    type.blocks = [] ∧ TidyXr b tidy next ∧ createFlags.blocks = [] ∧ applicationInfo.blocks = [] ∧
      enabledApiLayerCount.blocks = [] ∧
      TidyEach TidyName enabledApiLayerCount enabledApiLayerNames ∧
      enabledExtensionCount.blocks = [] ∧
      TidyEach TidyName enabledExtensionCount enabledExtensionNames
  | _ => False

/-- The members of an `XrFrameEndInfo`. -/
def TidyFrameEndInfo : List Value → Prop
  | [type, next, displayTime, environmentBlendMode, layerCount, layers] =>
    type.blocks = [] ∧ TidyXr b tidy next ∧ displayTime.blocks = [] ∧
      environmentBlendMode.blocks = [] ∧ layerCount.blocks = [] ∧
      TidyEach (TidyXr b tidy) layerCount layers
  | _ => False

/-- A struct. -/
def TidyStruct (struct : XrStruct) (value : Value) : Prop :=
  ∃ values, value.partsThere = some values ∧
    if struct.name = instanceCreateInfoName then TidyInstanceCreateInfo b tidy values
    else if struct.name = frameEndInfoName then TidyFrameEndInfo b tidy values
    else TidyMembers b tidy struct.members values struct.members values

/-- A value of a C type; a type that is no struct owns nothing. -/
def TidyType (type : String) (value : Value) : Prop :=
  match b.findStruct type with
  | none => value.blocks = []
  | some struct => TidyStruct b tidy struct value

end

/-- A value of a C type that nests no deeper than the index. -/
def Tidy (b : Build) : Nat → String → Value → Prop
  | 0 => fun _ _ => False
  | depth + 1 => TidyType b (Tidy b depth)

mutual

/-- No two pointers of a value are in one place. -/
theorem Value.blocks_nodup : ∀ value : Value, value.blocks.Nodup
  | .aggregate parts => by
    rw [Value.blocks]
    exact Path.numbered_nodup (blocksAll_nodup parts)
  | .block elements => by
    rw [Value.blocks]
    exact List.nodup_cons.mpr
      ⟨Path.root_notMem_numbered 0 _, Path.numbered_nodup (blocksAll_nodup elements)⟩
  | .chained _ object => by
    rw [Value.blocks]
    refine List.nodup_cons.mpr ⟨Path.root_notMem_numbered 0 _, Path.numbered_nodup ?_⟩
    intro branch member
    rw [List.mem_singleton.mp member]
    exact Value.blocks_nodup object
  | .chainedArray _ elements => by
    rw [Value.blocks]
    exact List.nodup_cons.mpr
      ⟨Path.root_notMem_numbered 0 _, Path.numbered_nodup (blocksAll_nodup elements)⟩
  | .plain _ => List.nodup_nil
  | .null => List.nodup_nil
  | .nullStruct => List.nodup_nil
  | .unset => List.nodup_nil
  | .outside => List.nodup_nil

/-- Part by part. -/
theorem blocksAll_nodup : ∀ values : List Value, ∀ branch ∈ blocksAll values, branch.Nodup
  | [], _, member => by simp [blocksAll] at member
  | value :: values, branch, member => by
    rw [blocksAll, List.mem_cons] at member
    rcases member with rfl | later
    · exact Value.blocks_nodup value
    · exact blocksAll_nodup values branch later

end

/-- Some blocks are freed, and they are those of a list, once each. -/
def Frees (freed : Option (List Path)) (blocks : List Path) : Prop :=
  ∃ paths, freed = some paths ∧ paths.Perm blocks

/-- The same below the branches of a node. -/
def FreesAll (freed : Option (List (List Path))) (branches : List (List Path)) : Prop :=
  ∃ paths, freed = some paths ∧ Path.Alike paths branches

/-- What is freed exactly is a permutation of the blocks. -/
theorem freesExactly_iff {freed : Option (List Path)} {value : Value} :
    FreesExactly freed value.blocks ↔ Frees freed value.blocks := by
  constructor
  · rintro ⟨paths, ended, once, same⟩
    exact ⟨paths, ended, (List.perm_ext_iff_of_nodup once value.blocks_nodup).mpr same⟩
  · rintro ⟨paths, ended, same⟩
    exact ⟨paths, ended, same.nodup_iff.mpr value.blocks_nodup, fun path => same.mem_iff⟩

/-- Nothing is freed of what owns nothing, and only of that. -/
theorem frees_nothing {blocks : List Path} : Frees (some []) blocks ↔ blocks = [] := by
  constructor
  · rintro ⟨paths, ended, same⟩
    obtain rfl := Option.some.inj ended
    exact List.nil_perm.mp same
  · rintro rfl
    exact ⟨[], rfl, .refl _⟩

/-- The blocks in an object are freed branch by branch. -/
theorem frees_numbered {freed : Option (List (List Path))} {branches : List (List Path)} :
    Frees (numbered 0 <$> freed) (numbered 0 branches) ↔ FreesAll freed branches := by
  cases freed with
  | none => simp [Frees, FreesAll]
  | some paths => simp [Frees, FreesAll, Path.numbered_perm_iff]

/-- A block is freed after what is in it. -/
theorem frees_block {freed : Option (List (List Path))} {branches : List (List Path)} :
    Frees (freeBlock <$> freed) ([] :: numbered 0 branches) ↔ FreesAll freed branches := by
  cases freed with
  | none => simp [Frees, FreesAll]
  | some paths =>
    have swapped : (freeBlock paths).Perm ([] :: numbered 0 paths) := List.perm_append_singleton _ _
    have same : (freeBlock paths).Perm ([] :: numbered 0 branches) ↔
        (numbered 0 paths).Perm (numbered 0 branches) := by
      constructor
      · intro all
        exact (List.perm_cons _).mp (swapped.symm.trans all)
      · intro below
        exact swapped.trans (below.cons _)
    simp [Frees, FreesAll, same, Path.numbered_perm_iff]

/-- The blocks of the first part. -/
theorem blocks_part_zero (values : List Value) :
    (Value.part 0 values).blocks = (blocksAll values).headD [] := by
  cases values with
  | nil => rfl
  | cons value values => rfl

/-- The blocks of the other parts. -/
theorem blocksAll_tail (values : List Value) : blocksAll values.tail = (blocksAll values).tail := by
  cases values with
  | nil => rfl
  | cons value values => rfl

/-- Values without blocks. -/
theorem blocksAll_nil_iff {values : List Value} :
    (∀ branch ∈ blocksAll values, branch = []) ↔ ∀ x ∈ values, x.blocks = [] := by
  induction values with
  | nil => simp [blocksAll]
  | cons value values ih => simp [blocksAll, ih]

/-- A part and then the others are freed branch by branch. -/
theorem freesAll_cons {first : Option (List Path)} {rest : Option (List (List Path))}
    {values : List Value} :
    FreesAll (do let paths ← first; let later ← rest; return paths :: later) (blocksAll values) ↔
      Frees first (Value.part 0 values).blocks ∧ FreesAll rest (blocksAll values.tail) := by
  rw [blocks_part_zero, blocksAll_tail]
  cases first with
  | none => simp [Frees, FreesAll]
  | some paths =>
    cases rest with
    | none => simp [Frees, FreesAll]
    | some later => simp [Frees, FreesAll, Path.Alike]

/-- No parts are cleaned up. -/
theorem freesAll_nil {values : List Value} :
    FreesAll (some []) (blocksAll values) ↔ ∀ x ∈ values, x.blocks = [] := by
  rw [← blocksAll_nil_iff]
  simp [FreesAll, Path.Alike]

/-- Elements are freed exactly if they are tidy. -/
theorem freesAll_array {element : Value → Option (List Path)} {tidy : Value → Prop}
    (each : ∀ x, Frees (element x) x.blocks ↔ tidy x) (len : Nat) (elements : List Value) :
    FreesAll (cleanupArray element len elements) (blocksAll elements) ↔
      TidyArray tidy len elements := by
  induction len generalizing elements with
  | zero => exact freesAll_nil
  | succ len ih => rw [cleanupArray, freesAll_cons, each, ih, TidyArray]

/-- The blocks of what is there of an object. -/
theorem blocks_partsThere {value : Value} {parts : List Value}
    (there : value.partsThere = some parts) : value.blocks = numbered 0 (blocksAll parts) := by
  cases value with
  | aggregate values =>
    obtain rfl := Option.some.inj there
    rw [Value.blocks]
  | outside =>
    obtain rfl := Option.some.inj there
    rfl
  | _ => contradiction

/-- What is behind a counted pointer is freed exactly if it is tidy. -/
theorem frees_ptr {element : Value → Option (List Path)} {tidy : Value → Prop}
    (each : ∀ x, Frees (element x) x.blocks ↔ tidy x) (count : Option Nat) (value : Value) :
    Frees (do let len ← count; cleanupPtr element len value) value.blocks ↔
      TidyPtr tidy count value := by
  cases count with
  | none => cases value <;> simp [Frees, TidyPtr]
  | some len =>
    cases value with
    | null => simp [cleanupPtr, TidyPtr, frees_nothing, Value.blocks]
    | block elements =>
      simp only [cleanupPtr, TidyPtr, Value.blocks, Option.bind_eq_bind, Option.bind_some,
        Option.some.injEq, exists_eq_left']
      rw [frees_block, freesAll_array each]
    | _ => simp [cleanupPtr, TidyPtr, Frees]

/-- A type that is no struct. -/
theorem frees_plain (value : Value) :
    Frees (cleanupPlain value) value.blocks ↔ value.blocks = [] := frees_nothing

/-- A string of a hand-written struct. -/
theorem frees_name (name : Value) : Frees (cleanupName name) name.blocks ↔ TidyName name :=
  frees_ptr frees_plain (countNullTerminated name) name

/-- An array of pointers of a hand-written struct. -/
theorem frees_each {element : Value → Option (List Path)} {tidy : Value → Prop}
    (each : ∀ x, Frees (element x) x.blocks ↔ tidy x) (count pointer : Value) :
    Frees (cleanupEach element count pointer) pointer.blocks ↔ TidyEach tidy count pointer := by
  cases count with
  | plain len =>
    cases pointer with
    | null =>
      have all := freesAll_array each len []
      rw [← frees_numbered] at all
      exact all
    | block elements =>
      simp only [cleanupEach, TidyEach, Value.blocks]
      rw [frees_block, freesAll_array each]
    | _ => simp [cleanupEach, TidyEach, Frees]
  | _ => simp [cleanupEach, TidyEach, Frees]

section

variable {b : Build} {recur : String → Value → Option (List Path)} {tidy : String → Value → Prop}
variable (each : ∀ type x, Frees (recur type x) x.blocks ↔ tidy type x)

include each

/-- A chained struct. -/
theorem frees_xr (value : Value) :
    Frees (cleanupXr b recur value) value.blocks ↔ TidyXr b tidy value := by
  cases value with
  | nullStruct => simp [cleanupXr, TidyXr, frees_nothing, Value.blocks]
  | chained name object =>
    simp only [cleanupXr, TidyXr, Value.blocks]
    cases tagged : object.structureType with
    | none => simp [Frees]
    | some type =>
      cases found : b.lookup type with
      | none => simp [Frees, found]
      | some struct =>
        by_cases named : struct.name = name
        · have single : (do let below ← recur name object; return freeBlock [below]) =
              freeBlock <$> (do
                let paths ← recur name object
                let later ← some []
                return paths :: later) := by
            cases recur name object <;> rfl
          have inner := @freesAll_cons (recur name object) (some []) [object]
          have nothing : FreesAll (some []) (blocksAll [object].tail) :=
            ⟨[], rfl, by simp [Path.Alike, blocksAll]⟩
          rw [show Value.part 0 [object] = object from rfl, each] at inner
          have whole : Frees (do let below ← recur name object; return freeBlock [below])
              ([] :: numbered 0 [object.blocks]) ↔ tidy name object := by
            rw [single, frees_block]
            exact inner.trans (and_iff_left nothing)
          simpa [found, named] using whole
        · simp [Frees, found, named]
  | _ => simp [cleanupXr, TidyXr, Frees]

/-- Structs behind a base struct. -/
theorem frees_xrArray (count : Option Nat) (value : Value) :
    Frees (do let len ← count; cleanupXrArray b recur len value) value.blocks ↔
      TidyXrArray b tidy count value := by
  cases count with
  | none => cases value <;> simp [Frees, TidyXrArray]
  | some len =>
    cases value with
    | nullStruct => simp [cleanupXrArray, TidyXrArray, frees_nothing, Value.blocks]
    | chainedArray name elements =>
      have whole : Frees (freeBlock <$> cleanupArray (recur name) len elements)
          ([] :: numbered 0 (blocksAll elements)) ↔ TidyArray (tidy name) len elements := by
        rw [frees_block, freesAll_array (each name)]
      simp only [Option.bind_eq_bind, Option.bind_some, cleanupXrArray, TidyXrArray, Value.blocks]
      cases tagged : (Value.part 0 elements).structureType with
      | none => simp [Frees]
      | some type =>
        cases found : b.lookup type with
        | none => simp [Frees, found]
        | some struct =>
          by_cases named : struct.name = name
          · simpa [found, named] using whole
          · simp [Frees, found, named]
    | _ => simp [cleanupXrArray, TidyXrArray, Frees]

/-- A member. -/
theorem frees_member (members : List XrParam) (values : List Value) (member : XrParam)
    (value : Value) :
    Frees (cleanupMember b recur members values member value) value.blocks ↔
      TidyMember b tidy members values member value := by
  unfold cleanupMember TidyMember
  cases memberKind b member with
  | none => simp [Frees]
  | some kind =>
    cases kind with
    | xrArray len => exact frees_xrArray each _ value
    | xr => exact frees_xr each value
    | ptr count => exact frees_ptr (each member.type) _ value
    | array extent =>
      cases there : value.partsThere with
      | none => simp [Frees]
      | some elements =>
        simp only [Option.bind_eq_bind, Option.bind_some, Option.some.injEq, exists_eq_left']
        rw [blocks_partsThere there, frees_numbered, freesAll_array (each member.type)]
    | time => exact frees_plain value
    | value => exact each member.type value

/-- Members in order. -/
theorem freesAll_members (members : List XrParam) (values : List Value) (rest : List XrParam)
    (others : List Value) :
    FreesAll (cleanupMembers b recur members values rest others) (blocksAll others) ↔
      TidyMembers b tidy members values rest others := by
  induction rest generalizing others with
  | nil => exact freesAll_nil
  | cons member rest ih =>
    rw [cleanupMembers, freesAll_cons, frees_member each, ih, TidyMembers]

/-- The members of an `XrInstanceCreateInfo`. -/
theorem freesAll_instanceCreateInfo (values : List Value) :
    FreesAll (cleanupInstanceCreateInfo b recur values) (blocksAll values) ↔
      TidyInstanceCreateInfo b tidy values := by
  unfold cleanupInstanceCreateInfo TidyInstanceCreateInfo
  split
  · simp only [inOrder, freesAll_cons, freesAll_nil, Value.part, List.getD_cons_zero,
      List.tail_cons, frees_nothing, frees_xr each, frees_each frees_name]
    simp
  · simp [FreesAll]

/-- The members of an `XrFrameEndInfo`. -/
theorem freesAll_frameEndInfo (values : List Value) :
    FreesAll (cleanupFrameEndInfo b recur values) (blocksAll values) ↔
      TidyFrameEndInfo b tidy values := by
  unfold cleanupFrameEndInfo TidyFrameEndInfo
  split
  · simp only [inOrder, freesAll_cons, freesAll_nil, Value.part, List.getD_cons_zero,
      List.tail_cons, frees_nothing, frees_xr each, frees_each (frees_xr each)]
    simp
  · simp [FreesAll]

/-- A struct. -/
theorem frees_struct (struct : XrStruct) (value : Value) :
    Frees (cleanupStruct b recur struct value) value.blocks ↔ TidyStruct b tidy struct value := by
  unfold cleanupStruct TidyStruct
  cases there : value.partsThere with
  | none => simp [Frees]
  | some values =>
    simp only [Option.bind_eq_bind, Option.bind_some, Option.some.injEq, exists_eq_left']
    rw [blocks_partsThere there, frees_numbered]
    split
    · exact freesAll_instanceCreateInfo each values
    · split
      · exact freesAll_frameEndInfo each values
      · exact freesAll_members each struct.members values struct.members values

end

/-- Cleaning up a value of any type frees exactly its blocks if and only if it is tidy. -/
theorem frees_cleanup (b : Build) (fuel : Nat) :
    ∀ type value, Frees (cleanup b fuel type value) value.blocks ↔ Tidy b fuel type value := by
  induction fuel with
  | zero =>
    intro type value
    simp [cleanup, Tidy, Frees]
  | succ fuel ih =>
    intro type value
    show Frees (cleanupType b (cleanup b fuel) type value) value.blocks ↔
      TidyType b (Tidy b fuel) type value
    unfold cleanupType TidyType
    cases b.findStruct type with
    | none => exact frees_plain value
    | some struct => exact frees_struct ih struct value

end XrTransport.Serialization
