import Mathlib.Data.List.Forall2
import XrTransport.Serialization.RoundTrip

/-!
# Values of one form

What a call does not change: which pointers are null, how many elements they lead to and which
structs are chained. A null pointer is as good as one to no elements, since the wire format does not
tell them apart. What arrives of a well-formed value has its form, and a value laid over a place of
its form leaves its contents there.
-/
namespace XrTransport.Serialization

mutual

/-- Values of one form whose plain contents are related. -/
def Value.Resembles (related : Nat → Nat → Prop) : Value → Value → Prop
  | .plain bits, .plain bits' => related bits bits'
  | .aggregate parts, .aggregate parts' => ResemblesAll related parts parts'
  | .null, .null => True
  | .null, .block elements => elements = []
  | .block elements, .null => elements = []
  | .nullStruct, .nullStruct => True
  | .block elements, .block elements' => ResemblesAll related elements elements'
  | .chained name object, .chained name' object' =>
    name = name' ∧ object.Resembles related object'
  | .chainedArray name elements, .chainedArray name' elements' =>
    name = name' ∧ ResemblesAll related elements elements'
  | _, _ => False

/-- Part by part. -/
def ResemblesAll (related : Nat → Nat → Prop) : List Value → List Value → Prop
  | [], [] => True
  | value :: values, value' :: values' =>
    value.Resembles related value' ∧ ResemblesAll related values values'
  | _, _ => False

end

/-- Values that resemble each other, case by case. -/
@[elab_as_elim]
theorem Value.Resembles.cases {related : Nat → Nat → Prop}
    {motive : (x y : Value) → x.Resembles related y → Prop}
    (plain : ∀ bits bits' (same : related bits bits'), motive (.plain bits) (.plain bits') same)
    (aggregate : ∀ parts parts' (same : ResemblesAll related parts parts'),
      motive (.aggregate parts) (.aggregate parts') same)
    (null : motive .null .null trivial)
    (nullEmpty : motive .null (.block []) rfl)
    (emptyNull : motive (.block []) .null rfl)
    (block : ∀ elements elements' (same : ResemblesAll related elements elements'),
      motive (.block elements) (.block elements') same)
    (nullStruct : motive .nullStruct .nullStruct trivial)
    (chained : ∀ name object object' (same : object.Resembles related object'),
      motive (.chained name object) (.chained name object') ⟨rfl, same⟩)
    (chainedArray : ∀ name elements elements' (same : ResemblesAll related elements elements'),
      motive (.chainedArray name elements) (.chainedArray name elements') ⟨rfl, same⟩) :
    ∀ x y (same : x.Resembles related y), motive x y same := by
  intro x y same
  cases x with
  | plain bits =>
    cases y with
    | plain bits' => exact plain bits bits' same
    | _ => exact False.elim same
  | aggregate parts =>
    cases y with
    | aggregate parts' => exact aggregate parts parts' same
    | _ => exact False.elim same
  | null =>
    cases y with
    | null => exact null
    | block elements' =>
      -- a block that resembles the null pointer is empty
      cases elements' with
      | nil => exact nullEmpty
      | cons first rest => exact absurd same (List.cons_ne_nil first rest)
    | _ => exact False.elim same
  | block elements =>
    cases y with
    | null =>
      cases elements with
      | nil => exact emptyNull
      | cons first rest => exact absurd same (List.cons_ne_nil first rest)
    | block elements' => exact block elements elements' same
    | _ => exact False.elim same
  | nullStruct =>
    cases y with
    | nullStruct => exact nullStruct
    | _ => exact False.elim same
  | chained name object =>
    cases y with
    | chained name' object' =>
      cases same.1
      exact chained name object object' same.2
    | _ => exact False.elim same
  | chainedArray name elements =>
    cases y with
    | chainedArray name' elements' =>
      cases same.1
      exact chainedArray name elements elements' same.2
    | _ => exact False.elim same
  | _ => exact False.elim same

/-- The same pointers, element counts and chained structs. -/
def Value.SameForm : Value → Value → Prop := Value.Resembles fun _ _ => True

/-- The same form and the same contents. -/
def Value.SameContent : Value → Value → Prop := Value.Resembles Eq

/-- Values of one form, one by one. -/
def SameForms : List Value → List Value → Prop := ResemblesAll fun _ _ => True

/-- Lists resemble each other when their values do. -/
theorem resemblesAll_iff {related : Nat → Nat → Prop} {values values' : List Value} :
    ResemblesAll related values values' ↔
      List.Forall₂ (Value.Resembles related) values values' := by
  induction values generalizing values' with
  | nil => cases values' <;> simp [ResemblesAll]
  | cons value values ih => cases values' <;> simp [ResemblesAll, ih]

/-- Lists of one form have one length. -/
theorem ResemblesAll.length_eq {related : Nat → Nat → Prop} {values values' : List Value}
    (alike : ResemblesAll related values values') : values.length = values'.length :=
  (resemblesAll_iff.mp alike).length_eq

mutual

/-- What has the form of a value has the form of whatever the value has the form of. -/
theorem Value.SameForm.trans : ∀ {first second third : Value}, first.SameForm second →
    second.SameForm third → first.SameForm third
  | .plain _, .plain _, .plain _, _, _ => trivial
  | .aggregate _, .aggregate _, .aggregate _, one, two => SameForms.trans one two
  | .null, .null, .null, _, _ => trivial
  | .null, .null, .block _, _, two => two
  | .null, .block _, .null, _, _ => trivial
  | .null, .block _, .block _, one, two => by
    obtain rfl := one
    exact List.length_eq_zero_iff.mp (ResemblesAll.length_eq two).symm
  | .block _, .null, .null, one, _ => one
  | .block _, .null, .block _, one, two => by
    obtain rfl := one
    obtain rfl := two
    trivial
  | .block _, .block _, .null, one, two => by
    obtain rfl := two
    exact List.length_eq_zero_iff.mp (ResemblesAll.length_eq one)
  | .block _, .block _, .block _, one, two => SameForms.trans one two
  | .nullStruct, .nullStruct, .nullStruct, _, _ => trivial
  | .chained _ _, .chained _ _, .chained _ _, one, two =>
    ⟨one.1.trans two.1, Value.SameForm.trans one.2 two.2⟩
  | .chainedArray _ _, .chainedArray _ _, .chainedArray _ _, one, two =>
    ⟨one.1.trans two.1, SameForms.trans one.2 two.2⟩

/-- The same for lists. -/
theorem SameForms.trans : ∀ {first second third : List Value}, SameForms first second →
    SameForms second third → SameForms first third
  | [], [], [], _, _ => trivial
  | _ :: _, _ :: _, _ :: _, one, two =>
    ⟨Value.SameForm.trans one.1 two.1, SameForms.trans one.2 two.2⟩

end

mutual

/-- A value fits over every place of its form. -/
theorem Value.SameForm.fits : ∀ {place value : Value}, place.SameForm value → place.Fits value
  | .plain _, .plain _, _ => trivial
  | .aggregate _, .aggregate _, form => SameForms.fits form
  | .null, .null, _ => trivial
  | .null, .block _, form => by
    obtain rfl := form
    trivial
  | .block _, .null, _ => trivial
  | .block _, .block _, form => SameForms.fits form
  | .nullStruct, .nullStruct, _ => trivial
  | .chained _ _, .chained _ _, form => ⟨form.1, Value.SameForm.fits form.2⟩
  | .chainedArray _ _, .chainedArray _ _, form => ⟨form.1, SameForms.fits form.2⟩

/-- The same for lists. -/
theorem SameForms.fits : ∀ {places values : List Value}, SameForms places values →
    FitsAll places values
  | [], [], _ => trivial
  | _ :: _, _ :: _, form => ⟨Value.SameForm.fits form.1, SameForms.fits form.2⟩

end

mutual

/-- A value laid over a place of its form leaves its contents there. -/
theorem overlay_sameContent : ∀ {place value result : Value}, place.SameForm value →
    place.overlay value = some result → result.SameContent value
  | .plain _, .plain _, _, _, laid => by
    obtain rfl := Option.some.inj laid
    exact rfl
  | .aggregate _, .aggregate _, _, form, laid => by
    obtain ⟨parts, laidAll, rfl⟩ := Option.map_eq_some_iff.mp laid
    exact overlayAll_sameContent form laidAll
  | .null, .null, _, _, laid => by
    obtain rfl := Option.some.inj laid
    trivial
  | .null, .block [], _, _, laid => by
    obtain rfl := Option.some.inj laid
    exact rfl
  | .block _, .block _, _, form, laid => by
    obtain ⟨elements, laidAll, rfl⟩ := Option.map_eq_some_iff.mp laid
    exact overlayAll_sameContent form laidAll
  | .nullStruct, .nullStruct, _, _, laid => by
    obtain rfl := Option.some.inj laid
    trivial
  | .chained _ _, .chained _ _, _, form, laid => by
    obtain ⟨object, inner, rfl⟩ := Option.map_eq_some_iff.mp laid
    exact ⟨form.1, overlay_sameContent form.2 inner⟩
  | .chainedArray _ _, .chainedArray _ _, _, form, laid => by
    obtain ⟨elements, laidAll, rfl⟩ := Option.map_eq_some_iff.mp laid
    exact ⟨form.1, overlayAll_sameContent form.2 laidAll⟩

/-- The same for lists. -/
theorem overlayAll_sameContent : ∀ {places values results : List Value}, SameForms places values →
    overlayAll places values = some results → ResemblesAll Eq results values
  | [], [], _, _, laid => by
    obtain rfl := Option.some.inj laid
    trivial
  | _ :: _, _ :: _, _, form, laid => by
    obtain ⟨head, first, laid⟩ := Option.bind_eq_some_iff.mp laid
    obtain ⟨tail, rest, rfl⟩ := Option.map_eq_some_iff.mp laid
    exact ⟨overlay_sameContent form.1 first, overlayAll_sameContent form.2 rest⟩

end

/-- Values keep their form when each does. -/
theorem sameForms_map {arrive : Value → Value} {values : List Value}
    (each : ∀ x ∈ values, x.SameForm (arrive x)) : SameForms values (values.map arrive) := by
  induction values with
  | nil => trivial
  | cons value values ih =>
    exact ⟨each value List.mem_cons_self, ih fun x member => each x (List.mem_cons_of_mem _ member)⟩

section

variable {element : Value → Prop} {arrive : Value → Value}
  (each : ∀ x, element x → x.SameForm (arrive x))

include each

/-- A counted pointer keeps its form. -/
theorem sameForm_ptr {count : Option Nat} {value : Value}
    (wf : WellFormedPtr element count value) : value.SameForm (receivedPtr arrive value) := by
  cases value with
  | null => trivial
  | block elements =>
    cases elements with
    | nil => exact rfl
    | cons first rest => exact sameForms_map fun x member => each x (wf.2.2 x member)
  | _ => exact wf.elim

/-- An array of pointers of a hand-written struct keeps its form. -/
theorem sameForm_each {count value : Value} (wf : WellFormedEach element count value) :
    value.SameForm (receivedEach arrive value) := by
  cases count with
  | plain len =>
    cases value with
    | null => exact rfl
    | block elements => exact sameForms_map fun x member => each x (wf.2 x member)
    | _ => exact wf.elim
  | _ => exact wf.elim

/-- A fixed array keeps its form. -/
theorem sameForm_array {extent : Nat} {value : Value} (wf : WellFormedArray element extent value) :
    value.SameForm (receivedArray arrive value) := by
  cases value with
  | aggregate elements => exact sameForms_map fun x member => each x (wf.2 x member)
  | _ => exact wf.elim

end

/-- A number has the form of a number. -/
theorem sameForm_plain {size : Nat} {value : Value} (wf : WellFormedPlain size value) :
    value.SameForm value := by
  cases value with
  | plain bits => trivial
  | _ => exact wf.elim

/-- A time keeps its form. -/
theorem sameForm_time (sender receiver : UInt64) {value : Value} (wf : WellFormedTime value) :
    value.SameForm (receivedTime sender receiver value) := by
  cases value with
  | plain time => trivial
  | _ => exact wf.elim

/-- A string of a hand-written struct keeps its form. -/
theorem sameForm_name {name : Value} (wf : WellFormedName name) :
    name.SameForm (receivedPtr id name) :=
  sameForm_ptr (fun _ wf => sameForm_plain wf) wf

section

variable {b : Build} {typed : String → Value → Prop} {arriving : String → Value → Value}
  (sender receiver : UInt64) (carry : ∀ type x, typed type x → x.SameForm (arriving type x))

include carry

/-- A chained struct keeps its form. -/
theorem sameForm_xr {value : Value} (wf : WellFormedXr b typed value) :
    value.SameForm (receivedXr arriving value) := by
  cases value with
  | nullStruct => trivial
  | chained name object =>
    obtain ⟨type, struct, -, -, -, -, wellTyped⟩ := wf
    exact ⟨rfl, carry name object wellTyped⟩
  | _ => exact wf.elim

/-- An array of structs behind a base struct keeps its form. -/
theorem sameForm_xrArray {count : Option Nat} {value : Value}
    (wf : WellFormedXrArray b typed count value) :
    value.SameForm (receivedXrArray arriving value) := by
  cases value with
  | nullStruct => trivial
  | chainedArray name elements =>
    obtain ⟨-, -, -, type, struct, -, -, -, each⟩ := wf
    exact ⟨rfl, sameForms_map fun x member => carry name x (each x member).2⟩
  | _ => exact wf.elim

/-- Every kind of member keeps its form. -/
theorem sameForm_member {members : List XrParam} {values : List Value} {member : XrParam}
    {value : Value} (wf : WellFormedMember b typed members values member value) :
    value.SameForm (receivedMember b sender receiver arriving member value) := by
  unfold WellFormedMember at wf
  unfold receivedMember
  cases known : memberKind b member with
  | none => simp [known] at wf
  | some kind =>
    simp only [known] at wf ⊢
    cases kind with
    | xrArray len => exact sameForm_xrArray carry wf
    | xr => exact sameForm_xr carry wf
    | ptr count => exact sameForm_ptr (carry member.type) wf
    | array extent => exact sameForm_array (carry member.type) wf
    | time => exact sameForm_time sender receiver wf
    | value => exact carry member.type value wf

/-- So do all members. -/
theorem sameForms_members {members : List XrParam} {values : List Value} (rest : List XrParam)
    (others : List Value) (wf : WellFormedMembers b typed members values rest others) :
    SameForms others (receivedMembers b sender receiver arriving rest others) := by
  induction rest generalizing others with
  | nil =>
    cases others with
    | nil => trivial
    | cons value others => exact wf.elim
  | cons member rest ih =>
    cases others with
    | nil => exact wf.elim
    | cons value others =>
      exact ⟨sameForm_member sender receiver carry wf.1, ih others wf.2⟩

/-- An `XrInstanceCreateInfo` keeps its form. -/
theorem sameForms_instanceCreateInfo {values : List Value}
    (wf : WellFormedInstanceCreateInfo b typed values) :
    SameForms values (receivedInstanceCreateInfo arriving values) := by
  unfold WellFormedInstanceCreateInfo at wf
  split at wf
  · obtain ⟨type, next, createFlags, application, layerCount, layers, extensionCount,
      extensions⟩ := wf
    exact ⟨sameForm_plain type, sameForm_xr carry next, sameForm_plain createFlags,
      carry _ _ application, sameForm_plain layerCount,
      sameForm_each (fun _ wf => sameForm_name wf) layers, sameForm_plain extensionCount,
      sameForm_each (fun _ wf => sameForm_name wf) extensions, trivial⟩
  · exact wf.elim

/-- An `XrFrameEndInfo` keeps its form. -/
theorem sameForms_frameEndInfo {values : List Value}
    (wf : WellFormedFrameEndInfo b typed values) :
    SameForms values (receivedFrameEndInfo sender receiver arriving values) := by
  unfold WellFormedFrameEndInfo at wf
  split at wf
  · obtain ⟨type, next, displayTime, blendMode, layerCount, layers⟩ := wf
    exact ⟨sameForm_plain type, sameForm_xr carry next, sameForm_time sender receiver displayTime,
      sameForm_plain blendMode, sameForm_plain layerCount,
      sameForm_each (fun _ wf => sameForm_xr carry wf) layers, trivial⟩
  · exact wf.elim

/-- A struct keeps its form. -/
theorem sameForm_struct {struct : XrStruct} {value : Value}
    (wf : WellFormedStruct b typed struct value) :
    value.SameForm (receivedStruct b sender receiver arriving struct value) := by
  cases value with
  | aggregate values =>
    obtain ⟨-, wf⟩ := wf
    unfold receivedStruct
    by_cases instanceCreate : struct.name = instanceCreateInfoName
    · simp only [instanceCreate, if_true] at wf ⊢
      exact sameForms_instanceCreateInfo carry wf
    · simp only [instanceCreate, if_false] at wf ⊢
      by_cases frameEnd : struct.name = frameEndInfoName
      · simp only [frameEnd, if_true] at wf ⊢
        exact sameForms_frameEndInfo sender receiver carry wf
      · simp only [frameEnd, if_false] at wf ⊢
        exact sameForms_members sender receiver carry struct.members values wf
  | _ => exact wf.elim

end

/-- What arrives of a well-formed value has its form. -/
theorem sameForm_received {b : Build} (sender receiver : UInt64) {depth : Nat} {type : String}
    {value : Value} (wf : WellFormed b depth type value) :
    value.SameForm (received b sender receiver depth type value) := by
  induction depth generalizing type value with
  | zero => exact wf.elim
  | succ depth ih =>
    have wf : WellFormedType b (WellFormed b depth) type value := wf
    show value.SameForm
      (receivedType b sender receiver (received b sender receiver depth) type value)
    unfold WellFormedType at wf
    unfold receivedType
    cases found : b.findStruct type with
    | none =>
      rw [found] at wf
      exact sameForm_plain wf
    | some struct =>
      rw [found] at wf
      exact sameForm_struct sender receiver (fun _ _ wf => ih wf) wf

end XrTransport.Serialization
