import XrTransport.Serialization.RoundTrip
import XrTransport.Serialization.Truncation

/-!
# Values without their unknown structs

With `skip_unknown_structs` the serializer passes over the structs of a chain whose type is in no
table. What it writes is what the strict serializer writes for the value with these structs unlinked
from their chains. The strict serializer raises an error at the first of them.
-/
namespace XrTransport.Serialization

section Definitions

variable (b : Build) (recur : String → Value → Value)

/-- A block with another element for every element. -/
def Value.mapBlock (f : Value → Value) : Value → Value
  | .block elements => .block (elements.map f)
  | value => value

/-- An aggregate with another part for every part. -/
def Value.mapParts (f : Value → Value) : Value → Value
  | .aggregate parts => .aggregate (parts.map f)
  | value => value

/-- What stands in place of a chain pointer is one. -/
def Value.asChain : Value → Value
  | .nullStruct => .nullStruct
  | .chained name object => .chained name object
  | _ => .unset

/-- A `next` pointer or a pointer to a base struct: a struct of unknown type gives way to its
`next`, its second member. -/
def filteredXr : Value → Value
  | .chained name (.aggregate (.plain type :: rest)) =>
    match b.lookup type with
    | none =>
      match rest with
      | next :: _ => (filteredXr next).asChain
      | [] => .unset
    | some struct => .chained name (recur struct.name (.aggregate (.plain type :: rest)))
  | value => value

/-- An array of structs behind a base struct: null if their type is unknown. -/
def filteredXrArray : Value → Value
  | .chainedArray name (first :: rest) =>
    match first.structureType with
    | none => .chainedArray name (first :: rest)
    | some type =>
      match b.lookup type with
      | none => .nullStruct
      | some struct => .chainedArray name ((first :: rest).map (recur struct.name))
  | value => value

/-- A member. -/
def filteredMember (member : XrParam) (value : Value) : Value :=
  match memberKind b member with
  | none => value
  | some (.xrArray _) => filteredXrArray b recur value
  | some .xr => filteredXr b recur value
  | some (.ptr _) => value.mapBlock (recur member.type)
  | some (.array _) => value.mapParts (recur member.type)
  | some .time => value
  | some .value => recur member.type value

/-- Members in order. -/
def filteredMembers : List XrParam → List Value → List Value
  | member :: rest, value :: others =>
    filteredMember b recur member value :: filteredMembers rest others
  | _, others => others

/-- An `XrInstanceCreateInfo`. -/
def filteredInstanceCreateInfo : List Value → List Value
  | [type, next, createFlags, applicationInfo, enabledApiLayerCount, enabledApiLayerNames,
      enabledExtensionCount, enabledExtensionNames] =>
    [type, filteredXr b recur next, createFlags, recur "XrApplicationInfo" applicationInfo,
      enabledApiLayerCount, enabledApiLayerNames, enabledExtensionCount, enabledExtensionNames]
  | values => values

/-- An `XrFrameEndInfo`. -/
def filteredFrameEndInfo : List Value → List Value
  | [type, next, displayTime, environmentBlendMode, layerCount, layers] =>
    [type, filteredXr b recur next, displayTime, environmentBlendMode, layerCount,
      layers.mapBlock (filteredXr b recur)]
  | values => values

/-- A struct. -/
def filteredStruct (struct : XrStruct) (value : Value) : Value :=
  if struct.header then filteredXr b recur value
  else
    match value with
    | .aggregate values =>
      .aggregate
        (if struct.name = instanceCreateInfoName then filteredInstanceCreateInfo b recur values
        else if struct.name = frameEndInfoName then filteredFrameEndInfo b recur values
        else filteredMembers b recur struct.members values)
    | value => value

/-- A value of a C type whose parts are filtered as `recur` says. -/
def filteredType (type : String) (value : Value) : Value :=
  match b.findStruct type with
  | none => value
  | some struct => filteredStruct b recur struct value

end Definitions

/-- A value of a C type with the structs of unknown type unlinked from its chains, down to a depth.
-/
def filtered (b : Build) : Nat → String → Value → Value
  | 0 => fun _ value => value
  | depth + 1 => filteredType b (filtered b depth)

mutual

/-- Some chain or array of the value has a struct of unknown type. -/
def Value.hasUnknown (b : Build) : Value → Bool
  | .aggregate parts => anyUnknown b parts
  | .block elements => anyUnknown b elements
  | .chained _ object => b.unlisted object.structureType || object.hasUnknown b
  | .chainedArray _ elements =>
    b.unlisted (elements.head?.bind Value.structureType) || anyUnknown b elements
  | _ => false

/-- One of the values has. -/
def anyUnknown (b : Build) : List Value → Bool
  | [] => false
  | value :: values => value.hasUnknown b || anyUnknown b values

end

variable {b : Build} {recur : String → Value → Value}

section Plain

/-- A function that keeps numbers and makes no others. -/
def KeepsPlain (f : Value → Value) : Prop :=
  ∀ value bits, f value = .plain bits ↔ value = .plain bits

/-- It keeps a number. -/
theorem KeepsPlain.plain {f : Value → Value} (keeps : KeepsPlain f) (bits : Nat) :
    f (.plain bits) = .plain bits :=
  (keeps _ _).mpr rfl

/-- A chain pointer is no number. -/
theorem asChain_ne_plain (value : Value) (bits : Nat) : value.asChain ≠ .plain bits := by
  cases value <;> exact nofun

/-- Blocks are no numbers. -/
theorem keepsPlain_mapBlock (f : Value → Value) : KeepsPlain (Value.mapBlock f) := by
  intro value bits
  cases value <;> simp [Value.mapBlock]

/-- Neither are aggregates. -/
theorem keepsPlain_mapParts (f : Value → Value) : KeepsPlain (Value.mapParts f) := by
  intro value bits
  cases value <;> simp [Value.mapParts]

/-- Neither are chains. -/
theorem keepsPlain_xr (recur : String → Value → Value) : KeepsPlain (filteredXr b recur) := by
  intro value bits
  unfold filteredXr
  split
  next name type rest =>
    refine iff_of_false ?_ nofun
    cases b.lookup type with
    | none =>
      cases rest with
      | nil => exact nofun
      | cons next tail => exact asChain_ne_plain _ bits
    | some struct => exact nofun
  next => exact Iff.rfl

/-- Neither are arrays of structs. -/
theorem keepsPlain_xrArray (recur : String → Value → Value) :
    KeepsPlain (filteredXrArray b recur) := by
  intro value bits
  unfold filteredXrArray
  split
  next name first rest =>
    refine iff_of_false ?_ nofun
    cases first.structureType with
    | none => exact nofun
    | some type =>
      dsimp only
      split <;> exact nofun
  next => exact Iff.rfl

variable (keeps : ∀ type, KeepsPlain (recur type))

include keeps

/-- Members keep numbers. -/
theorem keepsPlain_member (member : XrParam) : KeepsPlain (filteredMember b recur member) := by
  intro value bits
  unfold filteredMember
  cases memberKind b member with
  | none => exact Iff.rfl
  | some kind =>
    cases kind with
    | xrArray len => exact keepsPlain_xrArray recur value bits
    | xr => exact keepsPlain_xr recur value bits
    | ptr count => exact keepsPlain_mapBlock _ value bits
    | array extent => exact keepsPlain_mapParts _ value bits
    | time => exact Iff.rfl
    | value => exact keeps member.type value bits

omit keeps in
/-- Structs are no numbers. -/
theorem keepsPlain_struct (struct : XrStruct) : KeepsPlain (filteredStruct b recur struct) := by
  intro value bits
  unfold filteredStruct
  split
  · exact keepsPlain_xr recur value bits
  · cases value <;> simp

omit keeps in
/-- Values of a C type keep numbers. -/
theorem keepsPlain_filtered (depth : Nat) : ∀ type, KeepsPlain (filtered b depth type) := by
  intro type value bits
  cases depth with
  | zero => exact Iff.rfl
  | succ depth =>
    show filteredType b (filtered b depth) type value = .plain bits ↔ value = .plain bits
    unfold filteredType
    cases b.findStruct type with
    | none => exact Iff.rfl
    | some struct => exact keepsPlain_struct struct value bits

end Plain

section Counts

variable {f : Value → Value} (keeps : KeepsPlain f)

/-- Something that is no character ends no string. -/
theorem terminated_of_ne_plain {first : Value} (other : ∀ bits, first ≠ .plain bits)
    (rest : List Value) : terminated (first :: rest) = none := by
  cases first with
  | plain bits => exact absurd rfl (other bits)
  | _ => rfl

include keeps

/-- Strings are as long as they were. -/
theorem terminated_map_of_keeps (elements : List Value) :
    terminated (elements.map f) = terminated elements := by
  induction elements with
  | nil => rfl
  | cons first rest ih =>
    by_cases char : ∃ bits, first = .plain bits
    · obtain ⟨bits, rfl⟩ := char
      rw [List.map_cons, keeps.plain]
      cases bits with
      | zero => rfl
      | succ bits => simp only [terminated, ih]
    · have other : ∀ bits, first ≠ .plain bits := fun bits same => char ⟨bits, same⟩
      have others : ∀ bits, f first ≠ .plain bits :=
        fun bits same => char ⟨bits, (keeps first bits).mp same⟩
      rw [List.map_cons, terminated_of_ne_plain others, terminated_of_ne_plain other]

/-- A pointer counts as many elements as before. -/
theorem countNullTerminated_mapBlock (pointer : Value) :
    countNullTerminated (pointer.mapBlock f) = countNullTerminated pointer := by
  cases pointer with
  | block elements => exact terminated_map_of_keeps keeps elements
  | _ => rfl

end Counts

section Members

variable (keeps : ∀ type, KeepsPlain (recur type))

include keeps

/-- A sibling that is a number stays that number, and no other becomes one. -/
theorem sibling_filteredMembers (members : List XrParam) (values : List Value) (name : String)
    (count : Nat) :
    sibling members (filteredMembers b recur members values) name = some (.plain count) ↔
      sibling members values name = some (.plain count) := by
  induction members generalizing values with
  | nil => exact Iff.rfl
  | cons member rest ih =>
    cases values with
    | nil => exact Iff.rfl
    | cons value others =>
      by_cases named : member.name = name
      · have here := keepsPlain_member (b := b) keeps member value count
        simpa [sibling, filteredMembers, named] using here
      · have later := ih others
        simpa [sibling, filteredMembers, named] using later

/-- Every count expression has the value it had. -/
theorem countOf_filteredMembers (members : List XrParam) (values : List Value) {f : Value → Value}
    (keepsElements : KeepsPlain f) (pointer : Value) (count : Count) :
    countOf members (filteredMembers b recur members values) (pointer.mapBlock f) count =
      countOf members values pointer count := by
  cases count with
  | one => rfl
  | nullTerminated => exact countNullTerminated_mapBlock keepsElements pointer
  | sibling name =>
    have same := sibling_filteredMembers (b := b) keeps members values name
    simp only [countOf]
    split
    next count found => rw [(same count).mp found]
    next other =>
      split
      next count found => exact absurd ((same count).mpr found) (other count)
      next => rfl

/-- So does the name of a sibling, whatever the pointer is. -/
theorem countOf_sibling_filteredMembers (members : List XrParam) (values : List Value)
    (pointer pointer' : Value) (name : String) :
    countOf members (filteredMembers b recur members values) pointer' (.sibling name) =
      countOf members values pointer (.sibling name) := by
  have same := countOf_filteredMembers (b := b) keeps members values
    (fun _ _ => Iff.rfl : KeepsPlain id) pointer (.sibling name)
  exact same

end Members

/-- A function that keeps the structure types of objects. -/
def KeepsType (recur : String → Value → Value) : Prop :=
  ∀ name (object : Value) type, object.structureType = some type →
    (recur name object).structureType = some type

/-- Filtering keeps the structure types of objects. -/
theorem keepsType_filtered (depth : Nat) : KeepsType (filtered b depth) := by
  intro name object type tagged
  cases depth with
  | zero => exact tagged
  | succ depth =>
    obtain ⟨rest, rfl⟩ := Value.structureType_eq_some tagged
    show (filteredType b (filtered b depth) name _).structureType = some type
    unfold filteredType
    cases b.findStruct name with
    | none => exact tagged
    | some struct =>
      dsimp only
      unfold filteredStruct
      split
      · exact tagged
      · dsimp only
        split
        · unfold filteredInstanceCreateInfo
          split
          next same =>
            obtain ⟨rfl, rfl⟩ := List.cons.inj same
            rfl
          · rfl
        · split
          · unfold filteredFrameEndInfo
            split
            next same =>
              obtain ⟨rfl, rfl⟩ := List.cons.inj same
              rfl
            · rfl
          · cases struct.members with
            | nil => rfl
            | cons member others =>
              have kept : filteredMember b (filtered b depth) member (.plain type) = .plain type :=
                (keepsPlain_member (keepsPlain_filtered depth) member).plain type
              simp only [filteredMembers, kept, Value.structureType]

/-- One writer writes for every value what another writes for the filtered one. -/
def Agrees (skipping strict : Value → Written Raised) (f : Value → Value) : Prop :=
  ∀ value, skipping value = strict (f value)

section Elements

variable {skipping strict : Value → Written Raised} {f : Value → Value}
  (each : Agrees skipping strict f)

include each

/-- Writers that agree on elements agree on arrays. -/
theorem agrees_array (len : Nat) (elements : List Value) :
    serializeArray skipping len elements = serializeArray strict len (elements.map f) := by
  induction len generalizing elements with
  | zero => rfl
  | succ len ih =>
    cases elements with
    | nil => rfl
    | cons first rest => rw [List.map_cons, serializeArray, serializeArray, each first, ih rest]

/-- They agree on fixed arrays. -/
theorem agrees_fixedArray (extent : Nat) :
    Agrees (serializeFixedArray skipping extent) (serializeFixedArray strict extent)
      (Value.mapParts f) := by
  intro value
  cases value with
  | aggregate elements => exact agrees_array each extent elements
  | _ => rfl

/-- They agree on counted pointers. -/
theorem agrees_ptr (len : Nat) :
    Agrees (serializePtr skipping len) (serializePtr strict len) (Value.mapBlock f) := by
  intro value
  cases value with
  | block elements => simp only [serializePtr, Value.mapBlock, agrees_array each]
  | _ => rfl

/-- They agree on the arrays of pointers of the hand-written structs. -/
theorem agrees_each (count : Value) :
    Agrees (serializeEach skipping count) (serializeEach strict count) (Value.mapBlock f) := by
  intro pointer
  cases count with
  | plain len =>
    cases len with
    | zero => rfl
    | succ len =>
      cases pointer with
      | block elements => exact agrees_array each (len + 1) elements
      | _ => rfl
  | _ => rfl

end Elements

section Agreement

variable {offset : UInt64} {skipping strict : String → Value → Written Raised}

/-- Only a chain pointer is a chain pointer. -/
theorem serializeXr_asChain (ctx : SerializeContext) (writer : String → Value → Written Raised)
    (value : Value) :
    serializeXr b ctx writer value.asChain = serializeXr b ctx writer value := by
  cases value <;> rfl

/-- A struct that is found in the tables is written behind its type. -/
theorem serializeXr_tagged (ctx : SerializeContext) (writer : String → Value → Written Raised)
    {name : String} {object : Value} {type : Nat} {struct : XrStruct}
    (tagged : object.structureType = some type) (found : b.lookup type = some struct) :
    serializeXr b ctx writer (.chained name object) =
      (Written.complete (toBytes 4 type)).andThen (writer struct.name object) := by
  obtain ⟨rest, rfl⟩ := Value.structureType_eq_some tagged
  exact serializeXr_registered b ctx writer name found rest

/-- An object without a structure type cannot be written. -/
theorem serializeXr_untagged (ctx : SerializeContext) (writer : String → Value → Written Raised)
    {name : String} {object : Value}
    (untagged : ∀ type rest, object ≠ .aggregate (.plain type :: rest)) :
    serializeXr b ctx writer (.chained name object) = .stopped .fault := by
  unfold serializeXr
  split
  next same => cases same
  next same => exact absurd (Value.chained.inj same).2 (untagged _ _)
  next => rfl

/-- A struct that is found in the tables is kept. -/
theorem filteredXr_known {name : String} {type : Nat} {struct : XrStruct}
    (found : b.lookup type = some struct) (rest : List Value) :
    filteredXr b recur (.chained name (.aggregate (.plain type :: rest))) =
      .chained name (recur struct.name (.aggregate (.plain type :: rest))) := by
  cases rest with
  | nil => simp [filteredXr, found]
  | cons next tail => simp [filteredXr, found]

variable (keepsType : KeepsType recur)
  (agree : ∀ type, Agrees (skipping type) (strict type) (recur type))

include keepsType agree

/-- They agree on chains. -/
theorem agrees_xr :
    Agrees (serializeXr b ⟨offset, true⟩ skipping) (serializeXr b ⟨offset, false⟩ strict)
      (filteredXr b recur) := by
  intro value
  fun_induction filteredXr b recur value with
  | case1 name type missing next tail ih =>
    rw [serializeXr_asChain, ← ih]
    simp [serializeXr, missing]
  | case2 name type missing =>
    simp [serializeXr, missing]
  | case3 name type rest struct found =>
    have tagged : (Value.aggregate (.plain type :: rest)).structureType = some type := rfl
    rw [serializeXr_tagged _ _ tagged found, serializeXr_tagged _ _ (keepsType _ _ _ tagged) found,
      agree]
  | case4 value other =>
    cases value with
    | chained name object =>
      have untagged : ∀ type rest, object ≠ .aggregate (.plain type :: rest) := by
        rintro type rest rfl
        exact other name type rest rfl
      rw [serializeXr_untagged _ _ untagged, serializeXr_untagged _ _ untagged]
    | _ => rfl

/-- They agree on arrays of structs behind a base struct. -/
theorem agrees_xrArray (len : Nat) :
    Agrees (serializeXrArray b ⟨offset, true⟩ skipping len)
      (serializeXrArray b ⟨offset, false⟩ strict len) (filteredXrArray b recur) := by
  intro value
  cases value with
  | chainedArray name elements =>
    cases elements with
    | nil => rfl
    | cons first rest =>
      cases tagged : first.structureType with
      | none => simp [serializeXrArray, filteredXrArray, tagged]
      | some type =>
        cases found : b.lookup type with
        | none => simp [serializeXrArray, filteredXrArray, tagged, found]
        | some struct =>
          have kept := keepsType struct.name first type tagged
          have elements := agrees_array (agree struct.name) (len % 2 ^ 32) (first :: rest)
          rw [List.map_cons] at elements
          simp only [serializeXrArray, filteredXrArray, tagged, found, List.map_cons, kept,
            elements]
  | _ => rfl

variable (keepsPlain : ∀ type, KeepsPlain (recur type))

include keepsPlain

/-- They agree on the members of a struct. -/
theorem agrees_member (members : List XrParam) (values : List Value) (member : XrParam)
    (value : Value) :
    serializeMember b ⟨offset, true⟩ skipping members values member value =
      serializeMember b ⟨offset, false⟩ strict members (filteredMembers b recur members values)
        member (filteredMember b recur member value) := by
  unfold serializeMember filteredMember
  cases memberKind b member with
  | none => rfl
  | some kind =>
    cases kind with
    | xrArray len =>
      simp only [countOf_sibling_filteredMembers keepsPlain members values value]
      cases countOf members values value (.sibling len) with
      | none => rfl
      | some count => exact agrees_xrArray keepsType agree count value
    | xr => exact agrees_xr keepsType agree value
    | ptr count =>
      simp only [countOf_filteredMembers keepsPlain members values (keepsPlain member.type)]
      cases countOf members values value count with
      | none => rfl
      | some len => exact agrees_ptr (agree member.type) len value
    | array extent => exact agrees_fixedArray (agree member.type) (b.extent extent) value
    | time => rfl
    | value => exact agree member.type value

/-- They agree on all members. -/
theorem agrees_members (members : List XrParam) (values : List Value) (rest : List XrParam)
    (others : List Value) :
    serializeMembers b ⟨offset, true⟩ skipping members values rest others =
      serializeMembers b ⟨offset, false⟩ strict members (filteredMembers b recur members values)
        rest (filteredMembers b recur rest others) := by
  induction rest generalizing others with
  | nil => rfl
  | cons member rest ih =>
    cases others with
    | nil => rfl
    | cons value others =>
      have first := @agrees_member b recur offset skipping strict keepsType agree keepsPlain members
        values member value
      rw [serializeMembers, filteredMembers, serializeMembers, first, ih others]

omit keepsPlain in
/-- They agree on an `XrInstanceCreateInfo`. -/
theorem agrees_instanceCreateInfo (values : List Value) :
    serializeInstanceCreateInfo b ⟨offset, true⟩ skipping values =
      serializeInstanceCreateInfo b ⟨offset, false⟩ strict
        (filteredInstanceCreateInfo b recur values) := by
  unfold serializeInstanceCreateInfo
  split
  next type next createFlags applicationInfo layerCount layers extensionCount extensions =>
    have chain := @agrees_xr b recur offset skipping strict keepsType agree next
    have application := agree "XrApplicationInfo" applicationInfo
    simp only [filteredInstanceCreateInfo, chain, application]
  next other =>
    have same : filteredInstanceCreateInfo b recur values = values := by
      unfold filteredInstanceCreateInfo
      split
      · exact (other _ _ _ _ _ _ _ _ rfl).elim
      · rfl
    rw [same]
    split
    · exact (other _ _ _ _ _ _ _ _ rfl).elim
    · rfl

omit keepsPlain in
/-- They agree on an `XrFrameEndInfo`. -/
theorem agrees_frameEndInfo (values : List Value) :
    serializeFrameEndInfo b ⟨offset, true⟩ skipping values =
      serializeFrameEndInfo b ⟨offset, false⟩ strict (filteredFrameEndInfo b recur values) := by
  unfold serializeFrameEndInfo
  split
  next type next displayTime environmentBlendMode layerCount layers =>
    have chain := @agrees_xr b recur offset skipping strict keepsType agree
    have pointers := agrees_each chain layerCount layers
    simp only [filteredFrameEndInfo, chain next, pointers]
    rfl
  next other =>
    have same : filteredFrameEndInfo b recur values = values := by
      unfold filteredFrameEndInfo
      split
      · exact (other _ _ _ _ _ _ rfl).elim
      · rfl
    rw [same]
    split
    · exact (other _ _ _ _ _ _ rfl).elim
    · rfl

/-- They agree on structs. -/
theorem agrees_struct (struct : XrStruct) :
    Agrees (serializeStruct b ⟨offset, true⟩ skipping struct)
      (serializeStruct b ⟨offset, false⟩ strict struct) (filteredStruct b recur struct) := by
  intro value
  unfold serializeStruct filteredStruct
  by_cases header : struct.header = true
  · rw [if_pos header, if_pos header, if_pos header]
    exact agrees_xr keepsType agree value
  · rw [if_neg header, if_neg header, if_neg header]
    cases value with
    | aggregate values =>
      dsimp only
      by_cases instanceCreate : struct.name = instanceCreateInfoName
      · rw [if_pos instanceCreate, if_pos instanceCreate, if_pos instanceCreate]
        exact agrees_instanceCreateInfo keepsType agree values
      · rw [if_neg instanceCreate, if_neg instanceCreate, if_neg instanceCreate]
        by_cases frameEnd : struct.name = frameEndInfoName
        · rw [if_pos frameEnd, if_pos frameEnd, if_pos frameEnd]
          exact agrees_frameEndInfo keepsType agree values
        · rw [if_neg frameEnd, if_neg frameEnd, if_neg frameEnd]
          exact agrees_members keepsType agree keepsPlain struct.members values struct.members
            values
    | _ => rfl

end Agreement

/-- Skipping writes for every value what the strict serializer writes for the filtered one. -/
theorem agrees_serialize (offset : UInt64) (fuel : Nat) : ∀ type,
    Agrees (serialize b ⟨offset, true⟩ fuel type) (serialize b ⟨offset, false⟩ fuel type)
      (filtered b fuel type) := by
  induction fuel with
  | zero => exact fun _ _ => rfl
  | succ fuel ih =>
    intro type value
    show serializeType b ⟨offset, true⟩ (serialize b ⟨offset, true⟩ fuel) type value =
      serializeType b ⟨offset, false⟩ (serialize b ⟨offset, false⟩ fuel) type
        (filteredType b (filtered b fuel) type value)
    unfold serializeType filteredType
    cases b.findStruct type with
    | none => rfl
    | some struct =>
      exact agrees_struct (keepsType_filtered fuel) ih (keepsPlain_filtered fuel) struct value

/-- The value that is written: if structs of unknown type are skipped, the value without them. -/
def asWritten (b : Build) (ctx : SerializeContext) (fuel : Nat) (type : String) (value : Value) :
    Value :=
  if ctx.skipUnknownStructs then filtered b fuel type value else value

/-- Writing a value in either mode is writing what the strict serializer does not object to. -/
theorem serialize_asWritten (b : Build) (ctx : SerializeContext) (fuel : Nat) (type : String)
    (value : Value) :
    serialize b ctx fuel type value =
      serialize b ⟨ctx.timeOffset, false⟩ fuel type (asWritten b ctx fuel type value) := by
  obtain ⟨offset, skips⟩ := ctx
  cases skips with
  | true => exact agrees_serialize offset fuel type value
  | false => rfl

end XrTransport.Serialization
