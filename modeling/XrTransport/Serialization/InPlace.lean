import XrTransport.Serialization.RoundTrip
import XrTransport.Serialization.Scanning

/-!
# Decoding in place follows decoding into fresh storage

One simulation relates the two modes of every library function: whatever the allocating mode
builds from some bytes, the mode in place lays over a destination of the same shape, from the same
bytes. The two results differ in one thing only: the hand-written structs allocate an array even
for a count of zero, while a null pointer stays null in place.
-/
namespace XrTransport.Serialization

mutual

/-- Values of one shape whose plain contents are related. In front of a pointer to no elements a
null pointer is let through when `lenient`. Arrays behind base structs are left out. -/
def Value.Alike (related : Nat → Nat → Prop) (lenient : Prop) : Value → Value → Prop
  | .plain bits, .plain bits' => related bits bits'
  | .aggregate parts, .aggregate parts' => AlikeAll related lenient parts parts'
  | .null, .null => True
  | .null, .block [] => lenient
  | .nullStruct, .nullStruct => True
  | .block elements, .block elements' => AlikeAll related lenient elements elements'
  | .chained name object, .chained name' object' =>
    name = name' ∧ object.Alike related lenient object'
  | _, _ => False

/-- Part by part. -/
def AlikeAll (related : Nat → Nat → Prop) (lenient : Prop) : List Value → List Value → Prop
  | [], [] => True
  | value :: values, value' :: values' =>
    value.Alike related lenient value' ∧ AlikeAll related lenient values values'
  | _, _ => False

end

/-- The same null and non-null pointers, element counts and chained structs. -/
def Value.SameShape : Value → Value → Prop := Value.Alike (fun _ _ => True) False

/-- The same shape, but for null pointers where the other value has a pointer to no elements. -/
def Value.Matches : Value → Value → Prop := Value.Alike (fun _ _ => True) True

/-- The same value, but for null pointers where the other value has a pointer to no elements. -/
def Value.Agrees : Value → Value → Prop := Value.Alike Eq True

/-- The bytes, or a longer payload they begin, decode to a value of the shape of this one. -/
def Encodes (b : Build) (p : Platform) (offset : UInt64) (fuel : Nat) (type : String)
    (bytes : List UInt8) (place : Value) : Prop :=
  ∃ suffix value rest, deserialize b p { timeOffset := offset } fuel type .unset
    (bytes ++ suffix) = .done value rest ∧ place.Matches value

mutual

/-- Of one shape, agreeing values are equal. -/
theorem Value.Agrees.eq_of_sameShape : ∀ place value value' : Value, place.SameShape value →
    place.SameShape value' → value'.Agrees value → value' = value
  | .plain _, .plain _, .plain _, _, _, agree => congrArg Value.plain agree
  | .aggregate _, .aggregate _, .aggregate _, shape, shape', agree =>
    congrArg Value.aggregate (agreesAll_eq _ _ _ shape shape' agree)
  | .null, .null, .null, _, _, _ => rfl
  | .null, .block [], _, shape, _, _ => shape.elim
  | .null, .block (_ :: _), _, shape, _, _ => shape.elim
  | .nullStruct, .nullStruct, .nullStruct, _, _, _ => rfl
  | .block _, .block _, .block _, shape, shape', agree =>
    congrArg Value.block (agreesAll_eq _ _ _ shape shape' agree)
  | .chained _ place, .chained _ object, .chained _ object', shape, shape', agree => by
    obtain rfl := agree.1
    exact congrArg _ (Value.Agrees.eq_of_sameShape place object object' shape.2 shape'.2 agree.2)

/-- Of one shape, agreeing parts are equal. -/
theorem agreesAll_eq : ∀ places values values' : List Value,
    AlikeAll (fun _ _ => True) False places values →
    AlikeAll (fun _ _ => True) False places values' →
    AlikeAll Eq True values' values → values' = values
  | [], [], [], _, _, _ => rfl
  | place :: places, value :: values, value' :: values', shape, shape', agree => by
    have head := Value.Agrees.eq_of_sameShape place value value' shape.1 shape'.1 agree.1
    rw [head, agreesAll_eq places values values' shape.2 shape'.2 agree.2]

end

/-- Whatever the first reader builds in fresh storage, the second one lays over a destination of
that shape, using the same bytes. -/
def Follows (fresh existing : Value → Decoder Raised Value) : Prop :=
  ∀ place bytes value rest, fresh .unset bytes = .done value rest → place.Matches value →
    ∃ value', existing place bytes = .done value' rest ∧ place.SameShape value' ∧
      value'.Agrees value

/-- The same for readers of as many values. -/
def FollowsAll (count : Nat) (fresh existing : List Value → Decoder Raised (List Value)) : Prop :=
  ∀ places bytes values rest, fresh (List.replicate count .unset) bytes = .done values rest →
    AlikeAll (fun _ _ => True) True places values →
      ∃ values', existing places bytes = .done values' rest ∧
        AlikeAll (fun _ _ => True) False places values' ∧ AlikeAll Eq True values' values

variable {b : Build} {p : Platform} {offset : UInt64}

/-- A number read into fresh storage is read over any other number. -/
theorem plain_read_again {size : Nat} {place value : Value} {bytes rest : List UInt8}
    (read : deserializePlain size .unset bytes = .done value rest) (shape : place.Matches value) :
    deserializePlain size place bytes = .done value rest ∧
      ∃ bits bits', place = .plain bits' ∧ value = .plain bits := by
  have word : (Value.plain <$> Decoder.word size Raised.endOfFile) bytes = .done value rest := by
    simpa [deserializePlain] using read
  obtain ⟨bits, ended, rfl⟩ := Decoder.map_eq_done word
  cases place with
  | plain bits' =>
    refine ⟨?_, bits, bits', rfl, rfl⟩
    rw [← word]
    simp [deserializePlain]
  | _ => exact shape.elim

/-- A value of a type that is no struct is overwritten by what arrives. -/
theorem follows_plain (size : Nat) : Follows (deserializePlain size) (deserializePlain size) := by
  intro place bytes value rest read shape
  obtain ⟨again, bits, bits', rfl, rfl⟩ := plain_read_again read shape
  exact ⟨.plain bits, again, trivial, rfl⟩

/-- A time is overwritten by what arrives. -/
theorem follows_time : Follows (deserializeTime { timeOffset := offset })
    (deserializeTime { inPlace := true, timeOffset := offset }) := by
  intro place bytes value rest read shape
  obtain ⟨remoteTime, middle, word, stored⟩ := Decoder.bind_eq_done read
  rw [store, Decoder.pure_apply, Outcome.done.injEq] at stored
  · obtain ⟨rfl, rfl⟩ := stored
    cases place with
    | plain bits =>
      have written : deserializeTime { inPlace := true, timeOffset := offset } (.plain bits) bytes =
          .done (.plain (UInt64.ofNat remoteTime + offset).toNat) middle := by
        rw [deserializeTime, Decoder.bind_done word]
        rfl
      exact ⟨_, written, trivial, rfl⟩
    | _ => exact shape.elim
  · simp

/-- Elements follow when one does. -/
theorem follows_array {fresh existing : Value → Decoder Raised Value}
    (each : Follows fresh existing) (len : Nat) :
    FollowsAll len (deserializeArray fresh len) (deserializeArray existing len) := by
  induction len with
  | zero =>
    intro places bytes values rest read shape
    rw [deserializeArray, Decoder.pure_apply, Outcome.done.injEq] at read
    obtain ⟨rfl, rfl⟩ := read
    cases places with
    | nil => exact ⟨[], rfl, trivial, trivial⟩
    | cons place places => exact shape.elim
  | succ len ih =>
    intro places bytes values rest read shape
    rw [List.replicate_succ, deserializeArray] at read
    obtain ⟨value, middle, first, read⟩ := Decoder.bind_eq_done read
    obtain ⟨others, remaining, rfl⟩ := Decoder.map_eq_done read
    cases places with
    | nil => exact shape.elim
    | cons place places =>
      obtain ⟨value', first', shape', agree⟩ := each place bytes value middle first shape.1
      obtain ⟨others', remaining', shapes', agrees⟩ :=
        ih places middle others rest remaining shape.2
      refine ⟨value' :: others', ?_, ⟨shape', shapes'⟩, ⟨agree, agrees⟩⟩
      rw [deserializeArray, Decoder.bind_done first']
      exact Decoder.map_done remaining' (value' :: ·)

/-- As many elements are read into fresh storage as asked for. -/
theorem length_array {element : Value → Decoder Raised Value} (len : Nat) {values : List Value}
    {bytes rest : List UInt8}
    (read : deserializeArray element len (List.replicate len .unset) bytes = .done values rest) :
    values.length = len := by
  induction len generalizing bytes values with
  | zero =>
    rw [deserializeArray, Decoder.pure_apply, Outcome.done.injEq] at read
    obtain ⟨rfl, rfl⟩ := read
    rfl
  | succ len ih =>
    rw [List.replicate_succ, deserializeArray] at read
    obtain ⟨value, middle, first, read⟩ := Decoder.bind_eq_done read
    obtain ⟨others, remaining, rfl⟩ := Decoder.map_eq_done read
    rw [List.length_cons, ih remaining]

/-- An object follows when its parts do. -/
theorem follows_aggregate {fresh existing : List Value → Decoder Raised (List Value)} {count : Nat}
    (parts : FollowsAll count fresh existing) :
    Follows (fun place => Value.aggregate <$> fresh (place.places count))
      (fun place => Value.aggregate <$> existing (place.places count)) := by
  intro place bytes value rest read shape
  obtain ⟨values, members, rfl⟩ := Decoder.map_eq_done read
  cases place with
  | aggregate places =>
    obtain ⟨values', members', shape', agree⟩ := parts places bytes values rest members shape
    exact ⟨.aggregate values', Decoder.map_done members' Value.aggregate, shape', agree⟩
  | _ => exact shape.elim

section

variable (granted : ∀ size, p.malloc size = true)

include granted

/-- A counted pointer follows when an element does. -/
theorem follows_ptr {fresh existing : Value → Decoder Raised Value}
    (each : Follows fresh existing) (size : Nat) :
    Follows (deserializePtr p { timeOffset := offset } size fresh)
      (deserializePtr p { inPlace := true, timeOffset := offset } size existing) := by
  intro place bytes value rest read shape
  obtain ⟨len, middle, word, read⟩ := Decoder.bind_eq_done read
  unfold deserializePtr
  rw [Decoder.bind_done word]
  by_cases some : len ≠ 0
  · simp only [some, ne_eq, not_false_eq_true, if_true, Bool.false_eq_true, if_false, granted,
      allocate, allocated] at read ⊢
    obtain ⟨values, left, elements, stored⟩ := Decoder.bind_eq_done read
    rw [store, Decoder.pure_apply, Outcome.done.injEq] at stored
    · obtain ⟨rfl, rfl⟩ := stored
      cases place with
      | block places =>
        obtain ⟨values', elements', shape', agree⟩ :=
          follows_array each len places middle values left elements shape
        exact ⟨.block values', Decoder.map_done elements' Value.block, shape', agree⟩
      | null =>
        -- A null pointer would stand for an empty array, but there are elements.
        have sized := length_array len elements
        cases values with
        | nil => exact absurd sized.symm some
        | cons value values => exact shape.elim
      | _ => exact shape.elim
    · simp
  · simp only [some, if_false, Bool.false_eq_true, if_true] at read ⊢
    rw [store, Decoder.pure_apply, Outcome.done.injEq] at read
    · obtain ⟨rfl, rfl⟩ := read
      cases place with
      | null => exact ⟨.null, rfl, trivial, trivial⟩
      | _ => exact shape.elim
    · simp

/-- A string of a hand-written struct follows. -/
theorem follows_name : Follows (deserializeName p { timeOffset := offset })
    (deserializeName p { inPlace := true, timeOffset := offset }) :=
  follows_ptr granted (follows_plain 1) 1

/-- The loops of the hand-written deserializers follow when an element does: an allocated array of
no elements is what a null pointer agrees with. -/
theorem follows_each {fresh existing : Value → Decoder Raised Value}
    (each : Follows fresh existing) (len : Nat) :
    Follows (deserializeEach b p { timeOffset := offset } fresh (.plain len))
      (deserializeEach b p { inPlace := true, timeOffset := offset } existing (.plain len)) := by
  intro place bytes value rest read shape
  unfold deserializeEach at read ⊢
  simp only [Bool.false_eq_true, if_false, if_true, granted, allocate, allocated] at read ⊢
  obtain ⟨stored, middle, write, read⟩ := Decoder.bind_eq_done read
  rw [store, Decoder.pure_apply, Outcome.done.injEq] at write
  · obtain ⟨-, rfl⟩ := write
    obtain ⟨values, elements, rfl⟩ := Decoder.map_eq_done read
    cases place with
    | block places =>
      obtain ⟨values', elements', shape', agree⟩ :=
        follows_array each len places bytes values rest elements shape
      exact ⟨.block values', Decoder.map_done elements' Value.block, shape', agree⟩
    | null =>
      cases values with
      | nil =>
        obtain ⟨values', elements', -, -⟩ :=
          follows_array each len [] bytes [] rest elements trivial
        exact ⟨.null, Decoder.map_done elements' fun _ => Value.null, trivial, trivial⟩
      | cons value values => exact shape.elim
    | _ => exact shape.elim
  · simp

section

variable {fresh existing : String → Value → Decoder Raised Value}
variable (each : ∀ type, Follows (fresh type) (existing type))

include each

/-- A chained struct follows when structs do. -/
theorem follows_xr (isConst : Bool) :
    Follows (deserializeXr b p { timeOffset := offset } fresh isConst)
      (deserializeXr b p { inPlace := true, timeOffset := offset } existing isConst) := by
  intro place bytes value rest read shape
  obtain ⟨type, middle, word, read⟩ := Decoder.bind_eq_done read
  unfold deserializeXr
  rw [Decoder.bind_done word]
  by_cases some : type ≠ typeUnknown
  · simp only [some, ne_eq, not_false_eq_true, if_true, Bool.false_eq_true, if_false, granted,
      allocated] at read ⊢
    cases found : b.lookup type with
    | none =>
      rw [found] at read
      contradiction
    | some struct =>
      rw [found] at read
      obtain ⟨object, left, inner, stored⟩ := Decoder.bind_eq_done read
      rw [store, Decoder.pure_apply, Outcome.done.injEq] at stored
      · obtain ⟨rfl, rfl⟩ := stored
        cases place with
        | chained name there =>
          obtain ⟨rfl, shape⟩ := shape
          obtain ⟨object', inner', shape', agree⟩ :=
            each struct.name there middle object left inner shape
          refine ⟨.chained struct.name object', ?_, ⟨rfl, shape'⟩, ⟨rfl, agree⟩⟩
          simp only [deserializeXrInto, found, if_true]
          exact Decoder.map_done inner' (Value.chained struct.name)
        | _ => exact shape.elim
      · simp
  · simp only [some, if_false, Bool.false_eq_true, if_true] at read ⊢
    rw [store, Decoder.pure_apply, Outcome.done.injEq] at read
    · obtain ⟨rfl, rfl⟩ := read
      cases place with
      | nullStruct => exact ⟨.nullStruct, rfl, trivial, trivial⟩
      | _ => exact shape.elim
    · simp

omit each in
/-- Over no array behind a base struct, no array follows. -/
theorem follows_xrArray :
    Follows (deserializeXrArray b p { timeOffset := offset } fresh)
      (deserializeXrArray b p { inPlace := true, timeOffset := offset } existing) := by
  intro place bytes value rest read shape
  obtain ⟨count, middle, word, read⟩ := Decoder.bind_eq_done read
  unfold deserializeXrArray
  rw [Decoder.bind_done word]
  by_cases some : count ≠ 0
  · -- An array of at least one struct is left out by the shape.
    simp only [some, ne_eq, not_false_eq_true, if_true, Bool.false_eq_true, if_false] at read
    obtain ⟨type, after, _, read⟩ := Decoder.bind_eq_done read
    obtain ⟨stored, behind, _, read⟩ := Decoder.bind_eq_done read
    cases found : b.lookup type with
    | none =>
      rw [found] at read
      contradiction
    | some struct =>
      rw [found] at read
      obtain ⟨elements, _, rfl⟩ := Decoder.map_eq_done read
      rw [granted] at shape
      cases place <;> exact shape.elim
  · simp only [some, if_false] at read ⊢
    rw [store, Decoder.pure_apply, Outcome.done.injEq] at read
    · obtain ⟨rfl, rfl⟩ := read
      cases place with
      | nullStruct => exact ⟨.nullStruct, rfl, trivial, trivial⟩
      | _ => exact shape.elim
    · simp

/-- A member follows when values do. -/
theorem follows_member (member : XrParam) :
    Follows (deserializeMember b p { timeOffset := offset } fresh member)
      (deserializeMember b p { inPlace := true, timeOffset := offset } existing member) := by
  intro place bytes value rest read shape
  unfold deserializeMember at read ⊢
  cases known : memberKind b member with
  | none =>
    rw [known] at read
    contradiction
  | some kind =>
    rw [known] at read
    cases kind with
    | xrArray len => exact follows_xrArray granted place bytes value rest read shape
    | xr => exact follows_xr granted each _ place bytes value rest read shape
    | ptr count =>
      exact follows_ptr granted (each member.type) _ place bytes value rest read shape
    | array extent =>
      exact follows_aggregate (follows_array (each member.type) (b.extent extent)) place bytes value
        rest read shape
    | time => exact follows_time place bytes value rest read shape
    | value => exact each member.type place bytes value rest read shape

/-- Members follow when values do. -/
theorem follows_members (members : List XrParam) :
    FollowsAll members.length (deserializeMembers b p { timeOffset := offset } fresh members)
      (deserializeMembers b p { inPlace := true, timeOffset := offset } existing members) := by
  induction members with
  | nil =>
    intro places bytes values rest read shape
    rw [deserializeMembers, Decoder.pure_apply, Outcome.done.injEq] at read
    obtain ⟨rfl, rfl⟩ := read
    cases places with
    | nil => exact ⟨[], rfl, trivial, trivial⟩
    | cons place places => exact shape.elim
  | cons member members ih =>
    intro places bytes values rest read shape
    rw [List.length_cons, List.replicate_succ, deserializeMembers] at read
    obtain ⟨value, middle, first, read⟩ := Decoder.bind_eq_done read
    obtain ⟨others, remaining, rfl⟩ := Decoder.map_eq_done read
    cases places with
    | nil => exact shape.elim
    | cons place places =>
      obtain ⟨value', first', shape', agree⟩ :=
        follows_member granted each member place bytes value middle first shape.1
      obtain ⟨others', remaining', shapes', agrees⟩ :=
        ih places middle others rest remaining shape.2
      refine ⟨value' :: others', ?_, ⟨shape', shapes'⟩, ⟨agree, agrees⟩⟩
      rw [deserializeMembers]
      exact (Decoder.bind_done first' _).trans (Decoder.map_done remaining' (value' :: ·))

/-- An `XrInstanceCreateInfo` follows when values do. -/
theorem follows_instanceCreateInfo :
    Follows (fun place => deserializeInstanceCreateInfo b p { timeOffset := offset } fresh
        (place.places 8))
      (fun place => deserializeInstanceCreateInfo b p { inPlace := true, timeOffset := offset }
        existing (place.places 8)) := by
  intro place bytes value rest read shape
  simp only [Value.places_unset, deserializeInstanceCreateInfo, Value.part] at read ⊢
  obtain ⟨v₀, r₀, read₀, read⟩ := Decoder.bind_eq_done read
  obtain ⟨v₁, r₁, read₁, read⟩ := Decoder.bind_eq_done read
  obtain ⟨v₂, r₂, read₂, read⟩ := Decoder.bind_eq_done read
  obtain ⟨v₃, r₃, read₃, read⟩ := Decoder.bind_eq_done read
  obtain ⟨v₄, r₄, read₄, read⟩ := Decoder.bind_eq_done read
  obtain ⟨v₅, r₅, read₅, read⟩ := Decoder.bind_eq_done read
  obtain ⟨v₆, r₆, read₆, read⟩ := Decoder.bind_eq_done read
  obtain ⟨v₇, read₇, rfl⟩ := Decoder.map_eq_done read
  match place with
  | .aggregate [x₀, x₁, x₂, x₃, x₄, x₅, x₆, x₇] =>
    obtain ⟨s₀, s₁, s₂, s₃, s₄, s₅, s₆, s₇, -⟩ := shape
    obtain ⟨again₀, bits₀, _, rfl, rfl⟩ := plain_read_again read₀ s₀
    obtain ⟨w₁, again₁, t₁, a₁⟩ := follows_xr granted each true x₁ _ v₁ r₁ read₁ s₁
    obtain ⟨again₂, bits₂, _, rfl, rfl⟩ := plain_read_again read₂ s₂
    obtain ⟨w₃, again₃, t₃, a₃⟩ := each "XrApplicationInfo" x₃ _ v₃ r₃ read₃ s₃
    obtain ⟨again₄, len₄, _, rfl, rfl⟩ := plain_read_again read₄ s₄
    obtain ⟨w₅, again₅, t₅, a₅⟩ :=
      follows_each granted (follows_name granted) len₄ x₅ _ v₅ r₅ read₅ s₅
    obtain ⟨again₆, len₆, _, rfl, rfl⟩ := plain_read_again read₆ s₆
    obtain ⟨w₇, again₇, t₇, a₇⟩ :=
      follows_each granted (follows_name granted) len₆ x₇ _ v₇ rest read₇ s₇
    refine ⟨.aggregate [.plain bits₀, w₁, .plain bits₂, w₃, .plain len₄, w₅, .plain len₆, w₇], ?_,
      ⟨trivial, t₁, trivial, t₃, trivial, t₅, trivial, t₇, trivial⟩,
      ⟨rfl, a₁, rfl, a₃, rfl, a₅, rfl, a₇, trivial⟩⟩
    refine (Decoder.bind_done again₀ _).trans ?_
    refine (Decoder.bind_done again₁ _).trans ?_
    refine (Decoder.bind_done again₂ _).trans ?_
    refine (Decoder.bind_done again₃ _).trans ?_
    refine (Decoder.bind_done again₄ _).trans ?_
    refine (Decoder.bind_done again₅ _).trans ?_
    refine (Decoder.bind_done again₆ _).trans ?_
    exact Decoder.map_done again₇ _

/-- An `XrFrameEndInfo` follows when values do. -/
theorem follows_frameEndInfo :
    Follows (fun place => deserializeFrameEndInfo b p { timeOffset := offset } fresh
        (place.places 6))
      (fun place => deserializeFrameEndInfo b p { inPlace := true, timeOffset := offset } existing
        (place.places 6)) := by
  intro place bytes value rest read shape
  simp only [Value.places_unset, deserializeFrameEndInfo, Value.part] at read ⊢
  obtain ⟨v₀, r₀, read₀, read⟩ := Decoder.bind_eq_done read
  obtain ⟨v₁, r₁, read₁, read⟩ := Decoder.bind_eq_done read
  obtain ⟨v₂, r₂, read₂, read⟩ := Decoder.bind_eq_done read
  obtain ⟨v₃, r₃, read₃, read⟩ := Decoder.bind_eq_done read
  obtain ⟨v₄, r₄, read₄, read⟩ := Decoder.bind_eq_done read
  obtain ⟨v₅, read₅, rfl⟩ := Decoder.map_eq_done read
  match place with
  | .aggregate [x₀, x₁, x₂, x₃, x₄, x₅] =>
    obtain ⟨s₀, s₁, s₂, s₃, s₄, s₅, -⟩ := shape
    obtain ⟨again₀, bits₀, _, rfl, rfl⟩ := plain_read_again read₀ s₀
    obtain ⟨w₁, again₁, t₁, a₁⟩ := follows_xr granted each true x₁ _ v₁ r₁ read₁ s₁
    obtain ⟨w₂, again₂, t₂, a₂⟩ := follows_time x₂ _ v₂ r₂ read₂ s₂
    obtain ⟨again₃, bits₃, _, rfl, rfl⟩ := plain_read_again read₃ s₃
    obtain ⟨again₄, len₄, _, rfl, rfl⟩ := plain_read_again read₄ s₄
    obtain ⟨w₅, again₅, t₅, a₅⟩ :=
      follows_each granted (follows_xr granted each true) len₄ x₅ _ v₅ rest read₅ s₅
    refine ⟨.aggregate [.plain bits₀, w₁, w₂, .plain bits₃, .plain len₄, w₅], ?_,
      ⟨trivial, t₁, t₂, trivial, trivial, t₅, trivial⟩, ⟨rfl, a₁, a₂, rfl, rfl, a₅, trivial⟩⟩
    refine (Decoder.bind_done again₀ _).trans ?_
    refine (Decoder.bind_done again₁ _).trans ?_
    refine (Decoder.bind_done again₂ _).trans ?_
    refine (Decoder.bind_done again₃ _).trans ?_
    refine (Decoder.bind_done again₄ _).trans ?_
    exact Decoder.map_done again₅ _

/-- A struct follows when values do. -/
theorem follows_struct (struct : XrStruct) :
    Follows (deserializeStruct b p { timeOffset := offset } fresh struct)
      (deserializeStruct b p { inPlace := true, timeOffset := offset } existing struct) := by
  intro place bytes value rest read shape
  unfold deserializeStruct at read ⊢
  by_cases instanceCreate : struct.name = instanceCreateInfoName
  · rw [if_pos instanceCreate] at read ⊢
    exact follows_instanceCreateInfo granted each place bytes value rest read shape
  · rw [if_neg instanceCreate] at read ⊢
    by_cases frameEnd : struct.name = frameEndInfoName
    · rw [if_pos frameEnd] at read ⊢
      exact follows_frameEndInfo granted each place bytes value rest read shape
    · rw [if_neg frameEnd] at read ⊢
      exact follows_aggregate (follows_members granted each struct.members) place bytes value rest
        read shape

end

/-- Decoding in place follows decoding into fresh storage. -/
theorem follows_deserialize (fuel : Nat) (type : String) :
    Follows (deserialize b p { timeOffset := offset } fuel type)
      (deserialize b p { inPlace := true, timeOffset := offset } fuel type) := by
  induction fuel generalizing type with
  | zero =>
    intro place bytes value rest read shape
    contradiction
  | succ fuel ih =>
    intro place bytes value rest read shape
    unfold deserialize deserializeType at read ⊢
    cases found : b.findStruct type with
    | none =>
      rw [found] at read
      exact follows_plain _ place bytes value rest read shape
    | some struct =>
      rw [found] at read
      exact follows_struct granted ih struct place bytes value rest read shape

end

/-- Over a destination whose shape the bytes encode, the two modes return on the same inputs with
the same rest, and stop on the others with the same error. In place no pointer changes, and the
values are equal but for null pointers where the other mode allocates an array of no elements. -/
theorem inPlace_agrees_fresh (b : Build) (p : Platform) (granted : ∀ size, p.malloc size = true)
    (offset : UInt64) (fuel : Nat) (type : String) (bytes : List UInt8) (place : Value)
    (encoded : Encodes b p offset fuel type bytes place) :
    (∃ value value' rest,
        deserialize b p { timeOffset := offset } fuel type .unset bytes = .done value rest ∧
        deserialize b p { inPlace := true, timeOffset := offset } fuel type place bytes =
          .done value' rest ∧
        place.SameShape value' ∧ value'.Agrees value ∧
        (place.SameShape value → value' = value)) ∨
      (deserialize b p { timeOffset := offset } fuel type .unset bytes =
          .stopped (.raised .endOfFile) ∧
        deserialize b p { inPlace := true, timeOffset := offset } fuel type place bytes =
          .stopped (.raised .endOfFile)) := by
  obtain ⟨suffix, value, rest, whole, shape⟩ := encoded
  obtain ⟨used, split, anyRest, cut⟩ :=
    scans_deserialize b p { timeOffset := offset } fuel type .unset _ value rest whole
  have complete : ∀ left, bytes = used ++ left → ∃ value value' rest,
      deserialize b p { timeOffset := offset } fuel type .unset bytes = .done value rest ∧
      deserialize b p { inPlace := true, timeOffset := offset } fuel type place bytes =
        .done value' rest ∧
      place.SameShape value' ∧ value'.Agrees value ∧
      (place.SameShape value → value' = value) := by
    rintro left rfl
    obtain ⟨value', read, shape', agree⟩ :=
      follows_deserialize granted fuel type place _ value left (anyRest left) shape
    exact ⟨value, value', left, anyRest left, read, shape', agree,
      fun same => Value.Agrees.eq_of_sameShape place value value' same shape' agree⟩
  obtain ⟨missing, rfl, rfl⟩ | ⟨left, rfl, rfl⟩ := List.append_eq_append_iff.mp split
  · by_cases none : missing = []
    · subst none
      exact .inl (complete [] (by simp))
    · -- The payload ends within what both modes would use.
      obtain ⟨value', read, _, _⟩ :=
        follows_deserialize granted fuel type place _ value rest whole shape
      obtain ⟨used', split', _, cut'⟩ :=
        scans_deserialize b p { inPlace := true, timeOffset := offset } fuel type place _ value'
          rest read
      rw [← List.append_assoc] at split'
      have same : used' = bytes ++ missing := (List.append_cancel_right split').symm
      exact .inr ⟨cut bytes missing rfl none, cut' bytes missing same none⟩
  · exact .inl (complete left rfl)

/-- The layers of a frame without any are null where the frame is decoded in place, and an array
where it is decoded into fresh storage. -/
theorem emptyFrame_decodes_apart :
    ∃ bytes, serialize frameEndBuild {} 2 "XrFrameEndInfo" emptyFrame = .complete bytes ∧
      Encodes frameEndBuild plentiful 0 2 "XrFrameEndInfo" bytes emptyFrame ∧
      ¬∃ value rest,
        deserialize frameEndBuild plentiful {} 2 "XrFrameEndInfo" .unset bytes =
          .done value rest ∧
        deserialize frameEndBuild plentiful { inPlace := true } 2 "XrFrameEndInfo" emptyFrame
          bytes = .done value rest := by
  refine ⟨toBytes 4 12 ++ toBytes 4 0 ++ toBytes 8 1000 ++ toBytes 4 1 ++ toBytes 4 0, rfl,
    ⟨[], .aggregate [.plain 12, .nullStruct, .plain 1000, .plain 1, .plain 0, .block []], [], rfl,
      ⟨trivial, trivial, trivial, trivial, trivial, trivial, trivial⟩⟩, ?_⟩
  rintro ⟨value, rest, fresh, existing⟩
  have fresh' : deserialize frameEndBuild plentiful {} 2 "XrFrameEndInfo" .unset
      (toBytes 4 12 ++ toBytes 4 0 ++ toBytes 8 1000 ++ toBytes 4 1 ++ toBytes 4 0) =
      .done (.aggregate [.plain 12, .nullStruct, .plain 1000, .plain 1, .plain 0, .block []]) [] :=
    rfl
  have existing' : deserialize frameEndBuild plentiful { inPlace := true } 2 "XrFrameEndInfo"
      emptyFrame (toBytes 4 12 ++ toBytes 4 0 ++ toBytes 8 1000 ++ toBytes 4 1 ++ toBytes 4 0) =
      .done emptyFrame [] := rfl
  rw [fresh', Outcome.done.injEq] at fresh
  rw [existing', Outcome.done.injEq] at existing
  obtain ⟨rfl, _⟩ := fresh
  simp [emptyFrame] at existing

/-- The bytes of a frame with a chained struct and a layer. -/
def layeredBytes : List UInt8 :=
  toBytes 4 12 ++ (toBytes 4 1000135000 ++ (toBytes 4 1000135000 ++ toBytes 4 0 ++ toBytes 4 5 ++
    toBytes 8 1)) ++ toBytes 8 1000 ++ toBytes 4 1 ++ toBytes 4 1 ++
    (toBytes 4 1000118003 ++ (toBytes 4 1000118003 ++ toBytes 4 0 ++ toBytes 8 2 ++ toBytes 8 70 ++
      toBytes 8 80))

/-- The two modes over a frame of another time, with a chained struct and a layer: both return. -/
theorem inPlace_agrees_fresh_layeredFrame :
    ∃ value value' rest,
      deserialize layeredBuild plentiful { timeOffset := 0 } 3 "XrFrameEndInfo" .unset
        layeredBytes = .done value rest ∧
      deserialize layeredBuild plentiful { inPlace := true, timeOffset := 0 } 3 "XrFrameEndInfo"
        (layeredFrame 0) layeredBytes = .done value' rest ∧
      (layeredFrame 0).SameShape value' ∧ value'.Agrees value ∧
      ((layeredFrame 0).SameShape value → value' = value) := by
  have fresh : deserialize layeredBuild plentiful { timeOffset := 0 } 3 "XrFrameEndInfo" .unset
      layeredBytes = .done (layeredFrame 1000) [] := rfl
  have encoded : Encodes layeredBuild plentiful 0 3 "XrFrameEndInfo" layeredBytes
      (layeredFrame 0) := by
    refine ⟨[], layeredFrame 1000, [], by rw [List.append_nil]; exact fresh, ?_⟩
    simp [layeredFrame, Value.Matches, Value.Alike, AlikeAll]
  have both := inPlace_agrees_fresh layeredBuild plentiful (fun _ => rfl) 0 3 "XrFrameEndInfo"
    layeredBytes (layeredFrame 0) encoded
  rcases both with returned | ⟨stopped, -⟩
  · exact returned
  · rw [fresh] at stopped
    contradiction

end XrTransport.Serialization
