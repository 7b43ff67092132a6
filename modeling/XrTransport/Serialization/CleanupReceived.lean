import XrTransport.Serialization.CleanupUnchanged
import XrTransport.Serialization.Filtering

/-!
# Cleaning up what has arrived

What arrives of a well-formed value is tidy: its counts are those of the sender and say how many
elements there are. It stays tidy while other numbers in it are overwritten. An empty array behind a
pointer to base structs is not well formed, and after one the two sides are out of step.
-/
namespace XrTransport.Serialization

/-- What the registry's declarations have in common beyond what the generator relies on. -/
structure Build.Conventional (b : Build) : Prop where
  /-- No count is a time. -/
  counts : ∀ s ∈ b.structs, ∀ pointer ∈ s.members, ∀ name, pointer.len = some name →
    ∀ other ∈ s.members, other.name = name → other.type ≠ "XrTime"
  /-- A struct with a structure type does not begin with a time. -/
  tags : ∀ type entry, b.lookup type = some entry → ∀ s, b.findStruct entry.name = some s →
    ∀ member, s.members.head? = some member → member.type ≠ "XrTime"
  /-- `XrApplicationInfo` holds neither pointers nor structs. -/
  applicationInfo : ∀ s, b.findStruct "XrApplicationInfo" = some s →
    ∀ member ∈ s.members, member.pointer = none ∧ b.findStruct member.type = none

/-- Only an `XrTime` by value is a time. -/
theorem memberKind_time {b : Build} {member : XrParam} (time : memberKind b member = some .time) :
    member.type = "XrTime" := by
  unfold memberKind at time
  grind

/-- As many tidy elements as the count says. -/
theorem tidyArray_of_forall {tidy : Value → Prop} {elements : List Value}
    (each : ∀ x ∈ elements, tidy x) : TidyArray tidy elements.length elements := by
  induction elements with
  | nil => simp [TidyArray]
  | cons first rest ih =>
    exact ⟨each first (by simp), ih fun x member => each x (by simp [member])⟩

/-- The elements of a string are counted among what arrives of them. -/
theorem terminated_map {arrive : Value → Value} (plain : ∀ bits, arrive (.plain bits) = .plain bits)
    {elements : List Value} {len : Nat} (ended : terminated elements = some len) :
    terminated (elements.map arrive) = some len := by
  induction elements generalizing len with
  | nil => contradiction
  | cons first rest ih =>
    cases first with
    | plain bits =>
      rw [List.map_cons, plain]
      cases bits with
      | zero => exact ended
      | succ bits =>
        simp only [terminated, Option.map_eq_some_iff] at ended ⊢
        obtain ⟨before, some, rfl⟩ := ended
        exact ⟨before, ih some, rfl⟩
    | _ => contradiction

/-- A pointer that arrives counts as many elements as were sent. -/
theorem countNullTerminated_received {arrive : Value → Value}
    (plain : ∀ bits, arrive (.plain bits) = .plain bits) {pointer : Value} {len : Nat}
    (counted : countNullTerminated pointer = some len) :
    countNullTerminated (receivedPtr arrive pointer) = some len := by
  cases pointer with
  | null => exact counted
  | block elements =>
    cases elements with
    | nil => contradiction
    | cons first rest => exact terminated_map plain counted
  | _ => contradiction

section

variable {b : Build} {typed : String → Value → Prop} {tidy : String → Value → Prop}
variable {arriving : String → Value → Value} (sender receiver : UInt64)
variable (plain : ∀ type bits, arriving type (.plain bits) = .plain bits)

include plain

/-- A number arrives as it is unless it is a time. -/
theorem receivedMember_plain {member : XrParam} (other : member.type ≠ "XrTime") (bits : Nat) :
    receivedMember b sender receiver arriving member (.plain bits) = .plain bits := by
  unfold receivedMember
  cases kind : memberKind b member with
  | none => rfl
  | some known =>
    cases known with
    | time => exact absurd (memberKind_time kind) other
    | value => exact plain member.type bits
    | _ => rfl

/-- The count that a sibling holds arrives. -/
theorem sibling_received {members : List XrParam} {values : List Value} {name : String}
    {count : Nat} (numbers : ∀ other ∈ members, other.name = name → other.type ≠ "XrTime")
    (found : sibling members values name = some (.plain count)) :
    sibling members (receivedMembers b sender receiver arriving members values) name =
      some (.plain count) := by
  induction members generalizing values with
  | nil => contradiction
  | cons member rest ih =>
    cases values with
    | nil => contradiction
    | cons value others =>
      by_cases named : member.name = name
      · have here : value = .plain count := by simpa [sibling, named] using found
        have kept := receivedMember_plain (b := b) sender receiver plain
          (numbers member (by simp) named) count
        simp [sibling, receivedMembers, named, here, kept]
      · have later : sibling rest others name = some (.plain count) := by
          simpa [sibling, named] using found
        have arrived := ih (fun other member => numbers other (by simp [member])) later
        simpa [sibling, receivedMembers, named] using arrived

/-- Every count that could be evaluated by the sender has the same value for the receiver. -/
theorem countOf_received {members : List XrParam} {values : List Value} {pointer : Value}
    {arrive : Value → Value} (plainArrives : ∀ bits, arrive (.plain bits) = .plain bits)
    {count : Count}
    (numbers : ∀ name, count = .sibling name → ∀ other ∈ members, other.name = name →
      other.type ≠ "XrTime")
    {len : Nat} (counted : countOf members values pointer count = some len) :
    countOf members (receivedMembers b sender receiver arriving members values)
      (receivedPtr arrive pointer) count = some len := by
  cases count with
  | one => exact counted
  | nullTerminated => exact countNullTerminated_received plainArrives counted
  | sibling name =>
    have found : sibling members values name = some (.plain len) := by
      simp only [countOf] at counted
      split at counted
      next count same => rw [same, Option.some.inj counted]
      · contradiction
    rw [countOf, sibling_received sender receiver plain (numbers name rfl) found]

omit plain in
/-- The count of a well-formed pointer can be evaluated. -/
theorem WellFormedPtr.counted {element : Value → Prop} {count : Option Nat} {value : Value}
    (wf : WellFormedPtr element count value) : count.isSome := by
  cases value with
  | null => exact wf
  | block elements => simp [wf.1]
  | _ => exact wf.elim

omit plain in
/-- So can the count of a well-formed pointer to structs behind a base struct. -/
theorem WellFormedXrArray.counted {count : Option Nat} {value : Value}
    (wf : WellFormedXrArray b typed count value) : count.isSome := by
  cases value with
  | nullStruct => exact wf
  | chainedArray name elements => simp [wf.1]
  | _ => exact wf.elim

omit plain in
/-- What arrives behind a counted pointer is tidy when its elements are. -/
theorem tidy_ptr {element : Value → Prop} {clean : Value → Prop} {arrive : Value → Value}
    (each : ∀ x, element x → clean (arrive x)) {count : Option Nat} {value : Value}
    (wf : WellFormedPtr element count value) : TidyPtr clean count (receivedPtr arrive value) := by
  cases value with
  | null => exact wf
  | block elements =>
    obtain ⟨counted, _, all⟩ := wf
    cases elements with
    | nil => simp [receivedPtr, TidyPtr, counted]
    | cons first rest =>
      refine ⟨((first :: rest).map arrive).length, by rw [counted, List.length_map], ?_⟩
      apply tidyArray_of_forall
      intro x member
      obtain ⟨sent, source, rfl⟩ := List.mem_map.mp member
      exact each sent (all sent source)
  | _ => exact wf.elim

omit plain in
/-- So is a string of a hand-written struct. -/
theorem tidy_name {name : Value} (wf : WellFormedName name) : TidyName (receivedPtr id name) := by
  have char : ∀ x, WellFormedPlain 1 x → (id x).blocks = [] := by
    intro x plain
    cases x with
    | plain bits => rfl
    | _ => exact plain.elim
  have arrived : TidyPtr (fun char => char.blocks = []) (countNullTerminated name)
      (receivedPtr id name) := tidy_ptr char wf
  cases name with
  | null => exact arrived
  | block elements =>
    cases elements with
    | nil => obtain ⟨counted, _⟩ := wf; contradiction
    | cons first rest => simpa [TidyName, receivedPtr] using arrived
  | _ => exact wf.elim

omit plain in
/-- What arrives behind an array of pointers of a hand-written struct is tidy. -/
theorem tidy_each {element : Value → Prop} {clean : Value → Prop} {arrive : Value → Value}
    (each : ∀ x, element x → clean (arrive x)) {count pointer : Value}
    (wf : WellFormedEach element count pointer) :
    TidyEach clean count (receivedEach arrive pointer) := by
  cases count with
  | plain len =>
    cases pointer with
    | null =>
      obtain rfl : len = 0 := wf
      simp [receivedEach, TidyEach, TidyArray]
    | block elements =>
      obtain ⟨rfl, all⟩ := wf
      have sized : elements.length = (elements.map arrive).length := by rw [List.length_map]
      show TidyArray clean elements.length (elements.map arrive)
      rw [sized]
      apply tidyArray_of_forall
      intro x member
      obtain ⟨sent, source, rfl⟩ := List.mem_map.mp member
      exact each sent (all sent source)
    | _ => exact wf.elim
  | _ => exact wf.elim

omit plain in
/-- A number owns nothing. -/
theorem blocks_wellFormedPlain {size : Nat} {value : Value} (wf : WellFormedPlain size value) :
    value.blocks = [] := by
  cases value with
  | plain bits => rfl
  | _ => exact wf.elim

omit plain in
/-- A time owns nothing. -/
theorem blocks_receivedTime {value : Value} (wf : WellFormedTime value) :
    (receivedTime sender receiver value).blocks = [] := by
  cases value with
  | plain time => rfl
  | _ => exact wf.elim

variable (carry : ∀ type value, typed type value → tidy type (arriving type value))
variable (tagged : ∀ type entry object, b.lookup type = some entry → typed entry.name object →
  object.structureType = some type → (arriving entry.name object).structureType = some type)

include carry tagged

omit plain in
/-- A chained struct that arrives is tidy. -/
theorem tidy_xr {value : Value} (wf : WellFormedXr b typed value) :
    TidyXr b tidy (receivedXr arriving value) := by
  cases value with
  | nullStruct => exact trivial
  | chained name object =>
    obtain ⟨type, struct, tag, _, found, rfl, inner⟩ := wf
    exact ⟨type, struct, tagged type struct object found inner tag, found, rfl,
      carry struct.name object inner⟩
  | _ => exact wf.elim

omit plain in
/-- Structs behind a base struct are tidy when they arrive. -/
theorem tidy_xrArray {count : Option Nat} {value : Value}
    (wf : WellFormedXrArray b typed count value) :
    TidyXrArray b tidy count (receivedXrArray arriving value) := by
  cases value with
  | nullStruct => exact wf
  | chainedArray name elements =>
    obtain ⟨counted, some, _, type, struct, _, found, rfl, all⟩ := wf
    cases elements with
    | nil => contradiction
    | cons first rest =>
      obtain ⟨tag, inner⟩ := all first (by simp)
      have sized : (first :: rest).length =
          ((first :: rest).map (arriving struct.name)).length := by rw [List.length_map]
      refine ⟨_, type, struct, counted, tagged type struct first found inner tag, found, rfl, ?_⟩
      rw [sized]
      apply tidyArray_of_forall
      intro x member
      obtain ⟨sent, source, rfl⟩ := List.mem_map.mp member
      exact carry struct.name sent (all sent source).2
  | _ => exact wf.elim

/-- A member that arrives is tidy among the members that arrive. -/
theorem tidy_member {members : List XrParam} {values : List Value}
    {member : XrParam} {value : Value}
    (numbers : ∀ name, member.len = some name → ∀ other ∈ members, other.name = name →
      other.type ≠ "XrTime")
    (wf : WellFormedMember b typed members values member value) :
    TidyMember b tidy members (receivedMembers b sender receiver arriving members values) member
      (receivedMember b sender receiver arriving member value) := by
  unfold WellFormedMember at wf
  unfold TidyMember receivedMember
  cases kind : memberKind b member with
  | none => simp [kind] at wf
  | some known =>
    cases known with
    | xrArray len =>
      simp only [kind] at wf ⊢
      have named := memberKind_sibling (.inl kind)
      obtain ⟨count, counted⟩ := Option.isSome_iff_exists.mp wf.counted
      have arrived := countOf_received (b := b) sender receiver plain (plain member.type)
        (fun name same => by rw [← Count.sibling.inj same]; exact numbers len named) counted
      have tidied := tidy_xrArray carry tagged wf
      rw [counted, ← arrived] at tidied
      exact tidied
    | xr =>
      simp only [kind] at wf ⊢
      exact tidy_xr carry tagged wf
    | ptr count =>
      simp only [kind] at wf ⊢
      have named : ∀ name, count = .sibling name → ∀ other ∈ members, other.name = name →
          other.type ≠ "XrTime" := by
        rintro name rfl
        exact numbers name (memberKind_sibling (.inr kind))
      obtain ⟨len, counted⟩ := Option.isSome_iff_exists.mp wf.counted
      have arrived :=
        countOf_received (b := b) sender receiver plain (plain member.type) named counted
      have tidied := tidy_ptr (carry member.type) wf
      rw [counted, ← arrived] at tidied
      exact tidied
    | array extent =>
      simp only [kind] at wf ⊢
      cases value with
      | aggregate elements =>
        obtain ⟨sized, all⟩ := wf
        refine ⟨elements.map (arriving member.type), rfl, ?_⟩
        rw [← sized, ← List.length_map (arriving member.type)]
        apply tidyArray_of_forall
        intro x arrived
        obtain ⟨sent, source, rfl⟩ := List.mem_map.mp arrived
        exact carry member.type sent (all sent source)
      | _ => exact wf.elim
    | time =>
      simp only [kind] at wf ⊢
      exact blocks_receivedTime sender receiver wf
    | value =>
      simp only [kind] at wf ⊢
      exact carry member.type value wf

/-- Members that arrive are tidy. -/
theorem tidy_members {members : List XrParam} {values : List Value}
    (numbers : ∀ pointer ∈ members, ∀ name, pointer.len = some name →
      ∀ other ∈ members, other.name = name → other.type ≠ "XrTime")
    (rest : List XrParam) (others : List Value) (among : ∀ member ∈ rest, member ∈ members)
    (wf : WellFormedMembers b typed members values rest others) :
    TidyMembers b tidy members (receivedMembers b sender receiver arriving members values) rest
      (receivedMembers b sender receiver arriving rest others) := by
  induction rest generalizing others with
  | nil =>
    cases others with
    | nil => simp [TidyMembers, receivedMembers]
    | cons value others => exact wf.elim
  | cons member rest ih =>
    cases others with
    | nil => exact wf.elim
    | cons value others =>
      have first := tidy_member sender receiver plain carry tagged
        (numbers member (among member (by simp))) wf.1
      exact ⟨first, ih others (fun other later => among other (by simp [later])) wf.2⟩

omit plain in
/-- An `XrInstanceCreateInfo` that arrives is tidy. -/
theorem tidy_instanceCreateInfo
    (inline : ∀ value, typed "XrApplicationInfo" value →
      (arriving "XrApplicationInfo" value).blocks = [])
    {values : List Value} (wf : WellFormedInstanceCreateInfo b typed values) :
    TidyInstanceCreateInfo b tidy (receivedInstanceCreateInfo arriving values) := by
  unfold WellFormedInstanceCreateInfo at wf
  split at wf
  · obtain ⟨type, next, flags, info, layerCount, layers, extensionCount, extensions⟩ := wf
    exact ⟨blocks_wellFormedPlain type, tidy_xr carry tagged next, blocks_wellFormedPlain flags,
      inline _ info, blocks_wellFormedPlain layerCount, tidy_each (fun _ => tidy_name) layers,
      blocks_wellFormedPlain extensionCount, tidy_each (fun _ => tidy_name) extensions⟩
  · exact wf.elim

omit plain in
/-- An `XrFrameEndInfo` that arrives is tidy. -/
theorem tidy_frameEndInfo {values : List Value} (wf : WellFormedFrameEndInfo b typed values) :
    TidyFrameEndInfo b tidy (receivedFrameEndInfo sender receiver arriving values) := by
  unfold WellFormedFrameEndInfo at wf
  split at wf
  · obtain ⟨type, next, time, mode, layerCount, layers⟩ := wf
    exact ⟨blocks_wellFormedPlain type, tidy_xr carry tagged next,
      blocks_receivedTime sender receiver time, blocks_wellFormedPlain mode,
      blocks_wellFormedPlain layerCount, tidy_each (fun _ => tidy_xr carry tagged) layers⟩
  · exact wf.elim

/-- A value of a C type that arrives is tidy when the values it is made of are. -/
theorem tidy_type (conventional : b.Conventional)
    (inline : ∀ value, typed "XrApplicationInfo" value →
      (arriving "XrApplicationInfo" value).blocks = [])
    {type : String} {value : Value} (wf : WellFormedType b typed type value) :
    TidyType b tidy type (receivedType b sender receiver arriving type value) := by
  unfold WellFormedType at wf
  unfold TidyType receivedType
  cases found : b.findStruct type with
  | none =>
    simp only [found] at wf
    exact blocks_wellFormedPlain wf
  | some struct =>
    simp only [found] at wf
    cases value with
    | aggregate values =>
      obtain ⟨_, wf⟩ := wf
      refine ⟨_, rfl, ?_⟩
      by_cases instanceCreate : struct.name = instanceCreateInfoName
      · simp only [instanceCreate, if_true] at wf ⊢
        exact tidy_instanceCreateInfo carry tagged inline wf
      · simp only [instanceCreate, if_false] at wf ⊢
        by_cases frameEnd : struct.name = frameEndInfoName
        · simp only [frameEnd, if_true] at wf ⊢
          exact tidy_frameEndInfo sender receiver carry tagged wf
        · simp only [frameEnd, if_false] at wf ⊢
          have numbers := conventional.counts struct (b.findStruct_mem found).1
          exact tidy_members sender receiver plain carry tagged numbers struct.members values
            (fun _ member => member) wf
    | _ => exact wf.elim

end

variable {b : Build}

/-- A number arrives as it is. -/
theorem received_plain (sender receiver : UInt64) (depth : Nat) (type : String) (bits : Nat) :
    received b sender receiver depth type (.plain bits) = .plain bits := by
  cases depth with
  | zero => rfl
  | succ depth =>
    show receivedType b sender receiver (received b sender receiver depth) type (.plain bits) =
      .plain bits
    unfold receivedType
    cases b.findStruct type with
    | none => rfl
    | some struct => rfl

/-- A struct arrives with its structure type. -/
theorem structureType_received (conventional : b.Conventional) (sender receiver : UInt64)
    (depth : Nat) {type : Nat} {entry : XrStruct} {object : Value}
    (found : b.lookup type = some entry) (wf : WellFormed b depth entry.name object)
    (tag : object.structureType = some type) :
    (received b sender receiver depth entry.name object).structureType = some type := by
  obtain ⟨rest, rfl⟩ := Value.structureType_eq_some tag
  cases depth with
  | zero => exact wf.elim
  | succ depth =>
    have wf : WellFormedType b (WellFormed b depth) entry.name _ := wf
    show (receivedType b sender receiver (received b sender receiver depth) entry.name
      (.aggregate (.plain type :: rest))).structureType = some type
    unfold WellFormedType at wf
    unfold receivedType
    cases named : b.findStruct entry.name with
    | none => rfl
    | some struct =>
      simp only [named] at wf
      obtain ⟨_, wf⟩ := wf
      simp only [receivedStruct]
      by_cases instanceCreate : struct.name = instanceCreateInfoName
      · simp only [instanceCreate, if_true] at wf ⊢
        unfold receivedInstanceCreateInfo
        split
        next same =>
          rw [← (List.cons.inj same).1]
          rfl
        · rfl
      · simp only [instanceCreate, if_false] at wf ⊢
        by_cases frameEnd : struct.name = frameEndInfoName
        · simp only [frameEnd, if_true] at wf ⊢
          unfold receivedFrameEndInfo
          split
          next same =>
            rw [← (List.cons.inj same).1]
            rfl
          · rfl
        · simp only [frameEnd, if_false] at wf ⊢
          cases members : struct.members with
          | nil =>
            rw [members] at wf
            exact wf.elim
          | cons first others =>
            have number :=
              conventional.tags type entry found struct named first (by rw [members]; rfl)
            have kept := receivedMember_plain (b := b) sender receiver
              (received_plain (b := b) sender receiver depth) number type
            simp [receivedMembers, kept, Value.structureType]

/-- A member that is neither a pointer nor a struct owns nothing when it arrives. -/
theorem blocks_receivedMember (sender receiver : UInt64) (depth : Nat) {members : List XrParam}
    {values : List Value} {member : XrParam} {value : Value}
    (inline : member.pointer = none ∧ b.findStruct member.type = none)
    (wf : WellFormedMember b (WellFormed b depth) members values member value) :
    (receivedMember b sender receiver (received b sender receiver depth) member
      value).blocks = [] := by
  obtain ⟨pointer, noStruct⟩ := inline
  have noHeader : b.isHeader member.type = false := by simp [Build.isHeader, noStruct]
  have owned : ∀ x, WellFormed b depth member.type x →
      (received b sender receiver depth member.type x).blocks = [] := by
    intro x wf
    cases depth with
    | zero => exact wf.elim
    | succ depth =>
      have wf : WellFormedType b (WellFormed b depth) member.type x := wf
      simp only [WellFormedType, noStruct] at wf
      show (receivedType b sender receiver (received b sender receiver depth) member.type
        x).blocks = []
      simp only [receivedType, noStruct]
      exact blocks_wellFormedPlain wf
  unfold WellFormedMember at wf
  unfold receivedMember
  cases kind : memberKind b member with
  | none => simp [kind] at wf
  | some known =>
    cases known with
    | array extent =>
      simp only [kind] at wf ⊢
      cases value with
      | aggregate elements =>
        rw [receivedArray, Value.blocks, Path.numbered_eq_nil, blocksAll_nil_iff]
        intro x arrived
        obtain ⟨sent, source, rfl⟩ := List.mem_map.mp arrived
        exact owned sent (wf.2 sent source)
      | _ => exact wf.elim
    | time =>
      simp only [kind] at wf ⊢
      exact blocks_receivedTime sender receiver wf
    | value =>
      simp only [kind] at wf ⊢
      exact owned value wf
    | _ => simp [memberKind, pointer, noHeader] at kind; grind

/-- An `XrApplicationInfo` owns nothing when it arrives. -/
theorem blocks_applicationInfo (conventional : b.Conventional) (sender receiver : UInt64)
    (depth : Nat) {value : Value} (wf : WellFormed b depth "XrApplicationInfo" value) :
    (received b sender receiver depth "XrApplicationInfo" value).blocks = [] := by
  cases depth with
  | zero => exact wf.elim
  | succ depth =>
    have wf : WellFormedType b (WellFormed b depth) "XrApplicationInfo" value := wf
    show (receivedType b sender receiver (received b sender receiver depth) "XrApplicationInfo"
      value).blocks = []
    unfold WellFormedType at wf
    unfold receivedType
    cases found : b.findStruct "XrApplicationInfo" with
    | none =>
      simp only [found] at wf
      exact blocks_wellFormedPlain wf
    | some struct =>
      simp only [found] at wf
      cases value with
      | aggregate values =>
        obtain ⟨_, wf⟩ := wf
        have named := (b.findStruct_mem found).2
        simp only [named, instanceCreateInfoName, frameEndInfoName, String.reduceEq, if_false] at wf
        have owned : ∀ (rest : List XrParam) (others : List Value),
            (∀ member ∈ rest, member.pointer = none ∧ b.findStruct member.type = none) →
            WellFormedMembers b (WellFormed b depth) struct.members values rest others →
            ∀ x ∈ receivedMembers b sender receiver (received b sender receiver depth) rest others,
              x.blocks = [] := by
          intro rest others inline wf
          induction rest generalizing others with
          | nil =>
            cases others with
            | nil => simp [receivedMembers]
            | cons value others => exact wf.elim
          | cons member rest ih =>
            cases others with
            | nil => exact wf.elim
            | cons value others =>
              intro x arrived
              rw [receivedMembers, List.mem_cons] at arrived
              rcases arrived with rfl | later
              · exact blocks_receivedMember sender receiver depth (inline member (by simp)) wf.1
              · exact ih others (fun other member => inline other (by simp [member])) wf.2 x later
        simp only [receivedStruct, named, instanceCreateInfoName, frameEndInfoName, String.reduceEq,
          if_false]
        rw [Value.blocks, Path.numbered_eq_nil, blocksAll_nil_iff]
        exact owned struct.members values (conventional.applicationInfo struct found) wf
      | _ => exact wf.elim

/-- What arrives of a well-formed value is tidy. -/
theorem tidy_received (conventional : b.Conventional) (sender receiver : UInt64) (depth : Nat) :
    ∀ fuel ≥ depth, ∀ type value, WellFormed b depth type value →
      Tidy b fuel type (received b sender receiver depth type value) := by
  induction depth with
  | zero => exact fun _ _ _ _ wf => wf.elim
  | succ depth ih =>
    intro fuel enough type value wf
    obtain ⟨fuel, rfl⟩ := Nat.exists_eq_add_of_le' enough
    exact tidy_type sender receiver (received_plain sender receiver depth)
      (ih (fuel + depth) (by omega))
      (fun type entry object found =>
        structureType_received conventional sender receiver depth found)
      conventional (fun _ => blocks_applicationInfo conventional sender receiver depth) wf

/-- Cleaning up a value frees each of its blocks exactly once and nothing else if and only if it is
tidy. -/
theorem freesExactly_cleanup_iff {fuel : Nat} {type : String} {value : Value} :
    FreesExactly (cleanup b fuel type value) value.blocks ↔ Tidy b fuel type value := by
  rw [freesExactly_iff, frees_cleanup]

/-- A struct with a counted array of structs behind a base struct and a counted array of names. -/
def holder : XrStruct where
  name := "XrHolder"
  xrType := some 2
  members := [
    { type := "XrStructureType", name := "type" },
    { type := "uint32_t", name := "layerCount" },
    { qualifier := some "const", type := "XrLayerBaseHeader", pointer := some "*", name := "layers",
      len := some "layerCount" },
    { type := "uint32_t", name := "nameCount" },
    { qualifier := some "const", type := "XrName", pointer := some "*", name := "names",
      len := some "nameCount" }]

/-- The base struct. -/
def layerBaseHeader : XrStruct where
  name := "XrLayerBaseHeader"
  members := [{ type := "XrStructureType", name := "type" }]
  header := true

/-- A struct that begins with the base struct's member. -/
def quadLayer : XrStruct where
  name := "XrQuadLayer"
  xrType := some 3
  members := [
    { type := "XrStructureType", name := "type" },
    { type := "uint32_t", name := "eyeVisibility" }]

/-- A struct with a string. -/
def nameStruct : XrStruct where
  name := "XrName"
  members := [
    { qualifier := some "const", type := "char", pointer := some "*", name := "text",
      len := some "null-terminated" }]

/-- A registry of these structs. -/
def holderBuild : Build where
  structs := [holder, layerBaseHeader, quadLayer, nameStruct]
  extensions := [(none, [holder, layerBaseHeader, quadLayer, nameStruct])]
  enabled _ := false
  sizeOf type := if type = "char" then 1 else 4
  extent _ := 0
  nesting type :=
    if type ∈ ["XrHolder", "XrLayerBaseHeader", "XrQuadLayer", "XrName"] then 1 else 0
  nested := by decide
  distinct := by simp [holder, layerBaseHeader, quadLayer, nameStruct]
  typed := by simp [holder, layerBaseHeader, quadLayer, nameStruct, typeUnknown]

/-- The array of the one name "a". -/
def oneName : Value := .block [.aggregate [.block [.plain 97, .plain 0]]]

/-- A holder of one layer, visible as given, and of an array of names, with the counts given. -/
def holderOf (layerCount eyeVisibility nameCount : Nat) (names : Value) : Value :=
  .aggregate [.plain 2, .plain layerCount,
    .chainedArray "XrQuadLayer" [.aggregate [.plain 3, .plain eyeVisibility]], .plain nameCount,
    names]

/-- Its declarations are conventional: nothing is a time. -/
theorem holderBuild_conventional : holderBuild.Conventional := by
  have noTimes : ∀ s ∈ holderBuild.structs, ∀ member ∈ s.members, member.type ≠ "XrTime" := by
    decide
  refine ⟨?_, ?_, ?_⟩
  · intro s known pointer _ name _ other member _
    exact noTimes s known other member
  · intro type entry _ s found member first
    exact noTimes s (holderBuild.findStruct_mem found).1 member (List.mem_of_head? first)
  · intro s found
    have absent : holderBuild.findStruct "XrApplicationInfo" = none := by decide
    rw [absent] at found
    contradiction

/-- The registry has the holder. -/
theorem findStruct_holder : holderBuild.findStruct "XrHolder" = some holder := by decide

/-- The registry has the layer. -/
theorem findStruct_quadLayer : holderBuild.findStruct "XrQuadLayer" = some quadLayer := by decide

/-- The registry has the name. -/
theorem findStruct_name : holderBuild.findStruct "XrName" = some nameStruct := by decide

/-- How the members of a holder are treated. -/
theorem holder_kinds : holder.members.map (memberKind holderBuild) = [some .value, some .value,
    some (.xrArray "layerCount"), some .value, some (.ptr (.sibling "nameCount"))] := by decide

/-- How those of a layer are treated. -/
theorem quadLayer_kinds :
    quadLayer.members.map (memberKind holderBuild) = [some .value, some .value] := by decide

/-- How that of a name is treated. -/
theorem nameStruct_kinds :
    nameStruct.members.map (memberKind holderBuild) = [some (.ptr .nullTerminated)] := by decide

/-- A number of 32 bits is well formed. -/
theorem wellFormed_word {depth bits : Nat} {type : String}
    (word : holderBuild.findStruct type = none ∧ holderBuild.sizeOf type = 4)
    (fits : bits < 256 ^ 4) : WellFormed holderBuild (depth + 1) type (.plain bits) :=
  wellFormed_plain word.1 (word.2.symm ▸ fits)

/-- The name "a" is well formed. -/
theorem wellFormed_name :
    WellFormed holderBuild 2 "XrName" (.aggregate [.block [.plain 97, .plain 0]]) := by
  have kinds := nameStruct_kinds
  simp only [nameStruct, List.map_cons, List.cons.injEq] at kinds
  obtain ⟨text, -⟩ := kinds
  show WellFormedType holderBuild (WellFormed holderBuild 1) "XrName" _
  simp only [WellFormedType, findStruct_name, WellFormedStruct]
  refine ⟨rfl, ?_⟩
  rw [if_neg (by decide), if_neg (by decide)]
  simp only [nameStruct, WellFormedMembers, WellFormedMember, text]
  refine ⟨⟨rfl, by decide, ?_⟩, trivial⟩
  intro x member
  have char : x = .plain 97 ∨ x = .plain 0 := by simpa using member
  rcases char with rfl | rfl
  · show (97 : Nat) < 256 ^ 1
    decide
  · show (0 : Nat) < 256 ^ 1
    decide

/-- A layer is well formed. -/
theorem wellFormed_layer :
    WellFormed holderBuild 2 "XrQuadLayer" (.aggregate [.plain 3, .plain 0]) := by
  have kinds := quadLayer_kinds
  simp only [quadLayer, List.map_cons, List.cons.injEq] at kinds
  obtain ⟨type, eyeVisibility, -⟩ := kinds
  show WellFormedType holderBuild (WellFormed holderBuild 1) "XrQuadLayer" _
  simp only [WellFormedType, findStruct_quadLayer, WellFormedStruct]
  refine ⟨rfl, ?_⟩
  rw [if_neg (by decide), if_neg (by decide)]
  simp only [quadLayer, WellFormedMembers, WellFormedMember, type, eyeVisibility]
  exact ⟨wellFormed_word (by decide) (by decide), wellFormed_word (by decide) (by decide), trivial⟩

/-- A holder that counts its layer is well formed. -/
theorem wellFormed_holder : WellFormed holderBuild 3 "XrHolder" (holderOf 1 0 1 oneName) := by
  have kinds := holder_kinds
  show WellFormedType holderBuild (WellFormed holderBuild 2) "XrHolder" _
  simp only [holder, List.map_cons, List.cons.injEq] at kinds
  obtain ⟨type, layerCount, layers, nameCount, names, -⟩ := kinds
  simp only [WellFormedType, findStruct_holder, WellFormedStruct, holderOf, oneName]
  refine ⟨rfl, ?_⟩
  rw [if_neg (by decide), if_neg (by decide)]
  simp only [holder, WellFormedMembers, WellFormedMember, type, layerCount, layers, nameCount,
    names]
  refine ⟨wellFormed_word (by decide) (by decide), wellFormed_word (by decide) (by decide), ?_,
    wellFormed_word (by decide) (by decide), ?_, trivial⟩
  · refine ⟨rfl, by decide, by decide, 3, quadLayer, by decide, by decide, rfl, ?_⟩
    intro element member
    rw [List.mem_singleton.mp member]
    exact ⟨rfl, wellFormed_layer⟩
  · refine ⟨rfl, by decide, ?_⟩
    intro element member
    rw [List.mem_singleton.mp member]
    exact wellFormed_name

/-- A number may be overwritten. -/
theorem unchanged_word {type : String} (plain : holderBuild.findStruct type = none)
    (depth bits bits' : Nat) :
    Unchanged holderBuild (depth + 1) type (.plain bits) (.plain bits') := by
  show UnchangedType holderBuild (Unchanged holderBuild depth) type _ _
  simp only [UnchangedType, plain, UnchangedPlain]

/-- So may the visibility of a layer. -/
theorem unchanged_layer :
    Unchanged holderBuild 2 "XrQuadLayer" (.aggregate [.plain 3, .plain 0])
      (.aggregate [.plain 3, .plain 2]) := by
  have kinds := quadLayer_kinds
  simp only [quadLayer, List.map_cons, List.cons.injEq] at kinds
  obtain ⟨type, eyeVisibility, -⟩ := kinds
  have counts : UnchangedCounts quadLayer.members [.plain 3, .plain 0] [.plain 3, .plain 2] := by
    simp [UnchangedCounts, quadLayer]
  show UnchangedType holderBuild (Unchanged holderBuild 1) "XrQuadLayer" _ _
  simp only [UnchangedType, findStruct_quadLayer, UnchangedStruct]
  rw [if_neg (by decide), if_neg (by decide)]
  refine ⟨counts, ?_⟩
  simp only [quadLayer, UnchangedMembers, UnchangedMember, type, eyeVisibility]
  exact ⟨unchanged_word (by decide) 0 3 3, unchanged_word (by decide) 0 0 2, trivial⟩

/-- The name "a" has stayed. -/
theorem unchanged_name :
    Unchanged holderBuild 2 "XrName" (.aggregate [.block [.plain 97, .plain 0]])
      (.aggregate [.block [.plain 97, .plain 0]]) := by
  have kinds := nameStruct_kinds
  simp only [nameStruct, List.map_cons, List.cons.injEq] at kinds
  obtain ⟨text, -⟩ := kinds
  show UnchangedType holderBuild (Unchanged holderBuild 1) "XrName" _ _
  simp only [UnchangedType, findStruct_name, UnchangedStruct]
  rw [if_neg (by decide), if_neg (by decide)]
  refine ⟨fun _ _ _ _ => rfl, ?_⟩
  simp only [nameStruct, UnchangedMembers, UnchangedMember, text]
  exact ⟨trivial, trivial⟩

/-- Overwriting the visibility of the layer leaves alone what cleaning up the holder reads. -/
theorem unchanged_holder :
    Unchanged holderBuild 3 "XrHolder" (holderOf 1 0 1 oneName) (holderOf 1 2 1 oneName) := by
  have kinds := holder_kinds
  simp only [holder, List.map_cons, List.cons.injEq] at kinds
  obtain ⟨type, layerCount, layers, nameCount, names, -⟩ := kinds
  show UnchangedType holderBuild (Unchanged holderBuild 2) "XrHolder" _ _
  simp only [UnchangedType, findStruct_holder, UnchangedStruct, holderOf, oneName]
  rw [if_neg (by decide), if_neg (by decide)]
  refine ⟨by simp [UnchangedCounts, holder, sibling], ?_⟩
  simp only [holder, UnchangedMembers, UnchangedMember, type, layerCount, layers, nameCount, names]
  exact ⟨unchanged_word (by decide) 1 2 2, unchanged_word (by decide) 1 1 1,
    ⟨rfl, .cons ⟨rfl, unchanged_layer⟩ .nil⟩, unchanged_word (by decide) 1 1 1,
    .cons unchanged_name .nil, trivial⟩

/-- Behind such an array the bytes can still make sense by chance: with a null pointer for the
names, what is read in the wrong places is cleaned up as it should be. -/
theorem uncounted_layers_clean_by_chance :
    ∃ decoded bytes rest,
      serialize holderBuild {} 3 "XrHolder" (holderOf 0 0 0 .null) = .complete bytes ∧
      deserialize holderBuild plentiful {} 3 "XrHolder" .unset bytes = .done decoded rest ∧
      FreesExactly (cleanup holderBuild 3 "XrHolder" decoded) decoded.blocks := by
  have wrote : serialize holderBuild {} 3 "XrHolder" (holderOf 0 0 0 .null) =
      .complete [2, 0, 0, 0, 0, 0, 0, 0, 0, 0, 0, 0, 3, 0, 0, 0, 0, 0, 0, 0, 0, 0, 0, 0] := by
    decide
  have tidied : FreesExactly (some []) [] := ⟨[], rfl, List.nodup_nil, fun _ => Iff.rfl⟩
  exact ⟨.aggregate [.plain 2, .plain 0, .nullStruct, .plain 3, .null], _, [0, 0, 0, 0], wrote, rfl,
    tidied⟩

end XrTransport.Serialization
