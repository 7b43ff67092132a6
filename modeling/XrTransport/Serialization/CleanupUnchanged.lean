import Mathlib.Data.List.Forall2
import XrTransport.Serialization.CleanupExact

/-!
# What cleaning up relies on

Between decoding and cleaning up, a value is in use and numbers in it are overwritten. Cleaning up
reads its pointers, its counts, its strings and the structure types behind its chain pointers. As
long as these are left alone, the value owns the blocks it owned, and it is tidy if it was.
-/
namespace XrTransport.Serialization

open XrTransport.Path (numbered)

/-- A number, which may be another by now. -/
def UnchangedPlain : Value → Value → Prop
  | .plain _, .plain _ => True
  | _, _ => False

/-- A counted pointer that still leads to as many elements, of which each is as it should be. -/
def UnchangedPtr (element : Value → Value → Prop) : Value → Value → Prop
  | .null, .null => True
  | .block elements, .block elements' => List.Forall₂ element elements elements'
  | _, _ => False

/-- A fixed array. -/
def UnchangedArray (element : Value → Value → Prop) : Value → Value → Prop
  | .aggregate elements, .aggregate elements' => List.Forall₂ element elements elements'
  | _, _ => False

section

variable (b : Build) (unchanged : String → Value → Value → Prop)

/-- A chain pointer that still leads to the struct it led to, with the structure type it had. -/
def UnchangedXr : Value → Value → Prop
  | .nullStruct, .nullStruct => True
  | .chained name object, .chained name' object' =>
    name' = name ∧ object'.structureType = object.structureType ∧ unchanged name object object'
  | _, _ => False

/-- A pointer to structs behind a base struct. -/
def UnchangedXrArray : Value → Value → Prop
  | .nullStruct, .nullStruct => True
  | .chainedArray name elements, .chainedArray name' elements' =>
    name' = name ∧ List.Forall₂ (fun element element' =>
      element'.structureType = element.structureType ∧ unchanged name element element')
      elements elements'
  | _, _ => False

/-- A member. A string is what it was, characters included. -/
def UnchangedMember (member : XrParam) (value value' : Value) : Prop :=
  match memberKind b member with
  | none => False
  | some (.xrArray _) => UnchangedXrArray unchanged value value'
  | some .xr => UnchangedXr unchanged value value'
  | some (.ptr .nullTerminated) => value' = value
  | some (.ptr _) => UnchangedPtr (unchanged member.type) value value'
  | some (.array _) => UnchangedArray (unchanged member.type) value value'
  | some .time => UnchangedPlain value value'
  | some .value => unchanged member.type value value'

/-- Members in order. -/
def UnchangedMembers : List XrParam → List Value → List Value → Prop
  | [], [], [] => True
  | member :: rest, value :: others, value' :: others' =>
    UnchangedMember b unchanged member value value' ∧ UnchangedMembers rest others others'
  | _, _, _ => False

/-- The members that count the elements of others are what they were. -/
def UnchangedCounts (members : List XrParam) (values values' : List Value) : Prop :=
  ∀ pointer ∈ members, ∀ name, pointer.len = some name →
    sibling members values' name = sibling members values name

/-- The members of an `XrInstanceCreateInfo`. -/
def UnchangedInstanceCreateInfo : List Value → List Value → Prop
  | [type, next, createFlags, applicationInfo, enabledApiLayerCount, enabledApiLayerNames,
      enabledExtensionCount, enabledExtensionNames],
    [type', next', createFlags', applicationInfo', enabledApiLayerCount', enabledApiLayerNames',
      enabledExtensionCount', enabledExtensionNames'] =>
    UnchangedPlain type type' ∧ UnchangedXr unchanged next next' ∧
      UnchangedPlain createFlags createFlags' ∧
      unchanged "XrApplicationInfo" applicationInfo applicationInfo' ∧
      enabledApiLayerCount' = enabledApiLayerCount ∧
      enabledApiLayerNames' = enabledApiLayerNames ∧
      enabledExtensionCount' = enabledExtensionCount ∧
      enabledExtensionNames' = enabledExtensionNames
  | _, _ => False

/-- The members of an `XrFrameEndInfo`. -/
def UnchangedFrameEndInfo : List Value → List Value → Prop
  | [type, next, displayTime, environmentBlendMode, layerCount, layers],
    [type', next', displayTime', environmentBlendMode', layerCount', layers'] =>
    UnchangedPlain type type' ∧ UnchangedXr unchanged next next' ∧
      UnchangedPlain displayTime displayTime' ∧
      UnchangedPlain environmentBlendMode environmentBlendMode' ∧
      layerCount' = layerCount ∧ UnchangedPtr (UnchangedXr unchanged) layers layers'
  | _, _ => False

/-- A struct. -/
def UnchangedStruct (struct : XrStruct) : Value → Value → Prop
  | .aggregate values, .aggregate values' =>
    if struct.name = instanceCreateInfoName then
      UnchangedInstanceCreateInfo unchanged values values'
    else if struct.name = frameEndInfoName then UnchangedFrameEndInfo unchanged values values'
    else
      UnchangedCounts struct.members values values' ∧
        UnchangedMembers b unchanged struct.members values values'
  | _, _ => False

/-- A value of a C type. -/
def UnchangedType (type : String) (value value' : Value) : Prop :=
  match b.findStruct type with
  | none => UnchangedPlain value value'
  | some struct => UnchangedStruct b unchanged struct value value'

end

/-- The second value of a C type is the first but for numbers, nesting no deeper than the index. No
pointer differs, no count, no string, and no structure type behind a chain pointer. -/
def Unchanged (b : Build) : Nat → String → Value → Value → Prop
  | 0 => fun _ _ _ => False
  | depth + 1 => UnchangedType b (Unchanged b depth)

/-- A counted pointer names its count. -/
theorem memberKind_sibling {b : Build} {member : XrParam} {name : String}
    (counted : memberKind b member = some (.xrArray name) ∨
      memberKind b member = some (.ptr (.sibling name))) : member.len = some name := by
  unfold memberKind at counted
  grind

/-- Where a relation holds, the second value owns what the first one owns, and it is tidy if the
first one is. -/
def KeepsTidy (related : Value → Value → Prop) (tidy : Value → Prop) : Prop :=
  ∀ x y, related x y → y.blocks = x.blocks ∧ (tidy x → tidy y)

/-- Numbers own nothing. -/
theorem keepsTidy_plain : KeepsTidy UnchangedPlain fun value => value.blocks = [] := by
  intro x y kept
  cases x with
  | plain bits =>
    cases y with
    | plain bits' => exact ⟨rfl, id⟩
    | _ => exact kept.elim
  | _ => exact kept.elim

section

variable {related : Value → Value → Prop} {tidy : Value → Prop} (each : KeepsTidy related tidy)

include each

/-- Element by element the same blocks are owned. -/
theorem blocksAll_kept {elements elements' : List Value}
    (kept : List.Forall₂ related elements elements') :
    blocksAll elements' = blocksAll elements := by
  induction kept with
  | nil => rfl
  | cons first rest ih => rw [blocksAll, blocksAll, (each _ _ first).1, ih]

/-- Elements stay tidy. -/
theorem tidyArray_kept {len : Nat} {elements elements' : List Value}
    (kept : List.Forall₂ related elements elements') (tidied : TidyArray tidy len elements) :
    TidyArray tidy len elements' := by
  induction len generalizing elements elements' with
  | zero =>
    have nothing := blocksAll_nil_iff.mpr tidied
    rw [← blocksAll_kept each kept] at nothing
    exact blocksAll_nil_iff.mp nothing
  | succ len ih =>
    obtain ⟨head, tail⟩ := tidied
    cases kept with
    | nil => exact ⟨head, ih .nil tail⟩
    | cons first rest => exact ⟨(each _ _ first).2 head, ih rest tail⟩

/-- Unchanged pointers are both null, or lead to unchanged elements and own the same blocks. -/
theorem unchangedPtr_cases {x y : Value} (kept : UnchangedPtr related x y) :
    (x = .null ∧ y = .null) ∨ ∃ elements elements', x = .block elements ∧ y = .block elements' ∧
      List.Forall₂ related elements elements' ∧ y.blocks = x.blocks := by
  cases x with
  | null =>
    cases y with
    | null => exact .inl ⟨rfl, rfl⟩
    | _ => exact kept.elim
  | block elements =>
    cases y with
    | block elements' =>
      refine .inr ⟨elements, elements', rfl, rfl, kept, ?_⟩
      rw [Value.blocks, Value.blocks, blocksAll_kept each kept]
    | _ => exact kept.elim
  | _ => exact kept.elim

/-- Counted pointers stay tidy. -/
theorem keepsTidy_ptr (count : Option Nat) :
    KeepsTidy (UnchangedPtr related) (TidyPtr tidy count) := by
  intro x y kept
  obtain ⟨rfl, rfl⟩ | ⟨elements, elements', rfl, rfl, all, owned⟩ := unchangedPtr_cases each kept
  · exact ⟨rfl, id⟩
  · refine ⟨owned, ?_⟩
    rintro ⟨len, counted, tidied⟩
    exact ⟨len, counted, tidyArray_kept each all tidied⟩

/-- So do the arrays of pointers of the hand-written structs. -/
theorem keepsTidy_each (count : Value) :
    KeepsTidy (UnchangedPtr related) (TidyEach tidy count) := by
  intro x y kept
  obtain ⟨rfl, rfl⟩ | ⟨elements, elements', rfl, rfl, all, owned⟩ := unchangedPtr_cases each kept
  · exact ⟨rfl, id⟩
  · refine ⟨owned, fun tidied => ?_⟩
    cases count with
    | plain len => exact tidyArray_kept each all tidied
    | _ => exact tidied.elim

/-- So do fixed arrays. -/
theorem keepsTidy_array (extent : Nat) :
    KeepsTidy (UnchangedArray related) fun value =>
      ∃ elements, value.partsThere = some elements ∧ TidyArray tidy extent elements := by
  intro x y kept
  cases x with
  | aggregate elements =>
    cases y with
    | aggregate elements' =>
      refine ⟨by rw [Value.blocks, Value.blocks, blocksAll_kept each kept], ?_⟩
      rintro ⟨parts, there, tidied⟩
      obtain rfl := Option.some.inj there
      exact ⟨elements', rfl, tidyArray_kept each kept tidied⟩
    | _ => exact kept.elim
  | _ => exact kept.elim

end

section

variable {b : Build} {unchanged : String → Value → Value → Prop} {tidy : String → Value → Prop}
variable (each : ∀ type, KeepsTidy (unchanged type) (tidy type))

include each

/-- So do chained structs, which keep their structure types. -/
theorem keepsTidy_xr : KeepsTidy (UnchangedXr unchanged) (TidyXr b tidy) := by
  intro x y kept
  cases x with
  | nullStruct =>
    cases y with
    | nullStruct => exact ⟨rfl, id⟩
    | _ => exact kept.elim
  | chained name object =>
    cases y with
    | chained name' object' =>
      obtain ⟨rfl, tagged, inner⟩ := kept
      obtain ⟨owned, stays⟩ := each name' object object' inner
      refine ⟨by rw [Value.blocks, Value.blocks, owned], ?_⟩
      rintro ⟨type, struct, tag, found, named, tidied⟩
      exact ⟨type, struct, tagged.trans tag, found, named, stays tidied⟩
    | _ => exact kept.elim
  | _ => exact kept.elim

/-- So do structs behind a base struct. -/
theorem keepsTidy_xrArray (count : Option Nat) :
    KeepsTidy (UnchangedXrArray unchanged) (TidyXrArray b tidy count) := by
  intro x y kept
  cases x with
  | nullStruct =>
    cases y with
    | nullStruct => exact ⟨rfl, id⟩
    | _ => exact kept.elim
  | chainedArray name elements =>
    cases y with
    | chainedArray name' elements' =>
      obtain ⟨rfl, all⟩ := kept
      have inner : List.Forall₂ (unchanged name') elements elements' :=
        all.imp fun _ _ same => same.2
      refine ⟨by rw [Value.blocks, Value.blocks, blocksAll_kept (each name') inner], ?_⟩
      rintro ⟨len, type, struct, counted, tag, found, named, tidied⟩
      refine ⟨len, type, struct, counted, ?_, found, named,
        tidyArray_kept (each name') inner tidied⟩
      -- the first element is there, since it has a structure type
      cases all with
      | nil => exact tag
      | cons first rest => exact first.1.trans tag
    | _ => exact kept.elim
  | _ => exact kept.elim

/-- So does every kind of member, as long as the counts stay. -/
theorem keepsTidy_member {members : List XrParam} {values values' : List Value} {member : XrParam}
    (counts : UnchangedCounts members values values') (among : member ∈ members) :
    ∀ value value', UnchangedMember b unchanged member value value' →
      value'.blocks = value.blocks ∧ (TidyMember b tidy members values member value →
        TidyMember b tidy members values' member value') := by
  intro value value' kept
  unfold UnchangedMember at kept
  unfold TidyMember
  cases kind : memberKind b member with
  | none => simp [kind] at kept
  | some known =>
    cases known with
    | xrArray len =>
      simp only [kind] at kept ⊢
      have counted := counts member among len (memberKind_sibling (.inl kind))
      have same : countOf members values' value' (.sibling len) =
          countOf members values value (.sibling len) := by
        rw [countOf, countOf, counted]
      rw [same]
      exact keepsTidy_xrArray each _ value value' kept
    | xr =>
      simp only [kind] at kept ⊢
      exact keepsTidy_xr each value value' kept
    | ptr count =>
      cases count with
      | one =>
        simp only [kind] at kept ⊢
        exact keepsTidy_ptr (each member.type) _ value value' kept
      | nullTerminated =>
        simp only [kind] at kept ⊢
        obtain rfl := kept
        exact ⟨rfl, id⟩
      | sibling name =>
        simp only [kind] at kept ⊢
        have counted := counts member among name (memberKind_sibling (.inr kind))
        have same : countOf members values' value' (.sibling name) =
            countOf members values value (.sibling name) := by
          rw [countOf, countOf, counted]
        rw [same]
        exact keepsTidy_ptr (each member.type) _ value value' kept
    | array extent =>
      simp only [kind] at kept ⊢
      exact keepsTidy_array (each member.type) _ value value' kept
    | time =>
      simp only [kind] at kept ⊢
      exact keepsTidy_plain value value' kept
    | value =>
      simp only [kind] at kept ⊢
      exact each member.type value value' kept

/-- So do the members in order. -/
theorem keepsTidy_members {members : List XrParam} {values values' : List Value}
    (counts : UnchangedCounts members values values') (rest : List XrParam)
    (among : ∀ member ∈ rest, member ∈ members) :
    ∀ others others', UnchangedMembers b unchanged rest others others' →
      blocksAll others' = blocksAll others ∧ (TidyMembers b tidy members values rest others →
        TidyMembers b tidy members values' rest others') := by
  induction rest with
  | nil =>
    intro others others' kept
    cases others with
    | nil =>
      cases others' with
      | nil => exact ⟨rfl, id⟩
      | cons value' others' => exact kept.elim
    | cons value others => exact kept.elim
  | cons member rest ih =>
    intro others others' kept
    cases others with
    | nil => exact kept.elim
    | cons value others =>
      cases others' with
      | nil => exact kept.elim
      | cons value' others' =>
        obtain ⟨first, later⟩ := kept
        obtain ⟨owned, stays⟩ := keepsTidy_member each counts (among member (by simp)) _ _ first
        obtain ⟨ownedLater, stayLater⟩ :=
          ih (fun other member => among other (by simp [member])) others others' later
        refine ⟨by rw [blocksAll, blocksAll, owned, ownedLater], ?_⟩
        rintro ⟨head, tail⟩
        exact ⟨stays head, stayLater tail⟩

/-- So do the members of an `XrInstanceCreateInfo`. -/
theorem keepsTidy_instanceCreateInfo (values values' : List Value)
    (kept : UnchangedInstanceCreateInfo unchanged values values') :
    blocksAll values' = blocksAll values ∧
      (TidyInstanceCreateInfo b tidy values → TidyInstanceCreateInfo b tidy values') := by
  unfold UnchangedInstanceCreateInfo at kept
  split at kept
  · obtain ⟨type, next, flags, application, rfl, rfl, rfl, rfl⟩ := kept
    obtain ⟨typeOwns, typeStays⟩ := keepsTidy_plain _ _ type
    obtain ⟨nextOwns, nextStays⟩ := keepsTidy_xr (b := b) each _ _ next
    obtain ⟨flagsOwn, flagsStay⟩ := keepsTidy_plain _ _ flags
    obtain ⟨applicationOwns, -⟩ := each _ _ _ application
    refine ⟨by simp only [blocksAll, typeOwns, nextOwns, flagsOwn, applicationOwns], ?_⟩
    rintro ⟨type, next, flags, application, rest⟩
    exact ⟨typeStays type, nextStays next, flagsStay flags, applicationOwns.trans application, rest⟩
  · exact kept.elim

/-- So do those of an `XrFrameEndInfo`. -/
theorem keepsTidy_frameEndInfo (values values' : List Value)
    (kept : UnchangedFrameEndInfo unchanged values values') :
    blocksAll values' = blocksAll values ∧
      (TidyFrameEndInfo b tidy values → TidyFrameEndInfo b tidy values') := by
  unfold UnchangedFrameEndInfo at kept
  split at kept
  next layerCount _ _ _ _ _ _ _ _ =>
    obtain ⟨type, next, time, mode, rfl, layers⟩ := kept
    obtain ⟨typeOwns, typeStays⟩ := keepsTidy_plain _ _ type
    obtain ⟨nextOwns, nextStays⟩ := keepsTidy_xr (b := b) each _ _ next
    obtain ⟨timeOwns, timeStays⟩ := keepsTidy_plain _ _ time
    obtain ⟨modeOwns, modeStays⟩ := keepsTidy_plain _ _ mode
    have chains : KeepsTidy (UnchangedXr unchanged) (TidyXr b tidy) := keepsTidy_xr each
    obtain ⟨layersOwn, -⟩ := keepsTidy_ptr chains none _ _ layers
    refine ⟨by simp only [blocksAll, typeOwns, nextOwns, timeOwns, modeOwns, layersOwn], ?_⟩
    rintro ⟨type, next, time, mode, counted, pointers⟩
    exact ⟨typeStays type, nextStays next, timeStays time, modeStays mode, counted,
      (keepsTidy_each chains _ _ _ layers).2 pointers⟩
  · exact kept.elim

/-- So does a struct. -/
theorem keepsTidy_struct (struct : XrStruct) :
    KeepsTidy (UnchangedStruct b unchanged struct) (TidyStruct b tidy struct) := by
  intro x y kept
  cases x with
  | aggregate values =>
    cases y with
    | aggregate values' =>
      have inside : blocksAll values' = blocksAll values ∧
          (TidyStruct b tidy struct (.aggregate values) →
            TidyStruct b tidy struct (.aggregate values')) := by
        simp only [UnchangedStruct] at kept
        simp only [TidyStruct, Value.partsThere, Option.some.injEq, exists_eq_left']
        by_cases instanceCreate : struct.name = instanceCreateInfoName
        · simp only [instanceCreate, if_true] at kept ⊢
          exact keepsTidy_instanceCreateInfo each values values' kept
        · simp only [instanceCreate, if_false] at kept ⊢
          by_cases frameEnd : struct.name = frameEndInfoName
          · simp only [frameEnd, if_true] at kept ⊢
            exact keepsTidy_frameEndInfo each values values' kept
          · simp only [frameEnd, if_false] at kept ⊢
            exact keepsTidy_members each kept.1 struct.members (fun _ member => member) values
              values' kept.2
      exact ⟨by rw [Value.blocks, Value.blocks, inside.1], inside.2⟩
    | _ => exact kept.elim
  | _ => exact kept.elim

/-- So does a value of a C type. -/
theorem keepsTidy_type (type : String) :
    KeepsTidy (UnchangedType b unchanged type) (TidyType b tidy type) := by
  intro x y kept
  unfold UnchangedType at kept
  unfold TidyType
  cases found : b.findStruct type with
  | none =>
    rw [found] at kept
    exact keepsTidy_plain x y kept
  | some struct =>
    rw [found] at kept
    exact keepsTidy_struct each struct x y kept

end

/-- A value in which only other numbers have been overwritten owns the blocks it owned, and it is
tidy if it was. -/
theorem keepsTidy_unchanged (b : Build) (depth : Nat) :
    ∀ fuel type, KeepsTidy (Unchanged b depth type) (Tidy b fuel type) := by
  induction depth with
  | zero => exact fun _ _ _ _ kept => kept.elim
  | succ depth ih =>
    intro fuel type value value' kept
    refine ⟨(keepsTidy_type (ih 0) type value value' kept).1, fun tidied => ?_⟩
    cases fuel with
    | zero => exact tidied.elim
    | succ fuel => exact (keepsTidy_type (ih fuel) type value value' kept).2 tidied

end XrTransport.Serialization
