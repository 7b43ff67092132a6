import XrTransport.Serialization.Overlay
import XrTransport.Serialization.Serializer
import XrTransport.Serialization.WellFormed

/-!
# What is written is what is read

The serializer of a well-formed value runs to its end, and the deserializer of the same type reads
its bytes back in front of any suffix: it lays the received value over the destination. Each
library function gets one lemma; `carries` puts them together by induction on the nesting.
-/
namespace XrTransport.Serialization

variable {b : Build} {p : Platform} {ctx : DeserializeContext} {sctx : SerializeContext}

/-- A value is written completely, and the reader lays it over every place that accepts it. -/
def Travels (ctx : DeserializeContext) (written : Written Raised)
    (reader : Value → Decoder Raised Value) (arriving : Value) : Prop :=
  ∃ bytes, written = .complete bytes ∧
    ∀ place, ctx.Accepts place arriving →
      (reader place).Yields bytes (place.overlay arriving)

/-- The same for a list of values and a list of places. -/
def TravelsAll (ctx : DeserializeContext) (written : Written Raised)
    (reader : List Value → Decoder Raised (List Value)) (arriving : List Value) : Prop :=
  ∃ bytes, written = .complete bytes ∧
    ∀ places, ctx.AcceptsAll places arriving →
      (reader places).Yields bytes (overlayAll places arriving)

/-- Every value of every type that is well formed in the given sense travels. -/
def Carries (ctx : DeserializeContext) (typed : String → Value → Prop)
    (writer : String → Value → Written Raised) (reader : String → Value → Decoder Raised Value)
    (arriving : String → Value → Value) : Prop :=
  ∀ type value, typed type value →
    Travels ctx (writer type value) (reader type) (arriving type value)

/-- A place that accepts a number is fresh or holds a number. -/
theorem accepts_plain {place : Value} {bits : Nat}
    (accepted : ctx.Accepts place (.plain bits)) :
    place = .unset ∨ ∃ old, place = .plain old := by
  obtain ⟨_, fresh⟩ | ⟨_, fits⟩ := accepted.mode
  · exact .inl fresh
  · cases place with
    | plain old => exact .inr ⟨old, rfl⟩
    | _ => exact fits.elim

/-- A value of a type that is no struct travels as its bytes. -/
theorem travels_plain {size : Nat} {value : Value}
    (wf : WellFormedPlain size value) :
    Travels ctx (serializePlain size value) (deserializePlain size) value := by
  cases value with
  | plain bits =>
    refine ⟨toBytes size bits, rfl, ?_⟩
    intro place accepted
    have read := Decoder.Yields.map Value.plain (Decoder.Yields.word Raised.endOfFile wf)
    obtain rfl | ⟨old, rfl⟩ := accepts_plain accepted
    · exact read
    · exact read
  | _ => exact wf.elim

/-- A time by value travels translated. -/
theorem travels_time {value : Value} (wf : WellFormedTime value) :
    Travels ctx (serializeTime sctx value) (deserializeTime ctx)
      (receivedTime sctx.timeOffset ctx.timeOffset value) := by
  cases value with
  | plain time =>
    refine ⟨_, rfl, ?_⟩
    intro place accepted
    have fits : (UInt64.ofNat time - sctx.timeOffset).toNat < 256 ^ 8 := UInt64.toNat_lt _
    rw [← List.append_nil (toBytes _ _)]
    refine Decoder.Yields.afterWord Raised.endOfFile fits ?_
    rw [UInt64.ofNat_toNat]
    obtain rfl | ⟨old, rfl⟩ := accepts_plain accepted
    · exact Decoder.Yields.pure _
    · exact Decoder.Yields.pure _
  | _ => exact wf.elim

/-- Elements travel in order. -/
theorem travelsAll_array {writer : Value → Written Raised}
    {reader : Value → Decoder Raised Value} {arriving : Value → Value} {values : List Value}
    (each : ∀ x ∈ values, Travels ctx (writer x) reader (arriving x)) :
    TravelsAll ctx (serializeArray writer values.length values)
      (deserializeArray reader values.length) (values.map arriving) := by
  induction values with
  | nil =>
    refine ⟨[], rfl, ?_⟩
    intro places accepted
    rw [accepted.nil]
    exact Decoder.Yields.pure _
  | cons value values ih =>
    obtain ⟨first, wroteFirst, readFirst⟩ := each value (by simp)
    obtain ⟨others, wroteOthers, readOthers⟩ := ih fun x member => each x (by simp [member])
    refine ⟨first ++ others, ?_, ?_⟩
    · simp [serializeArray, wroteFirst, wroteOthers]
    · intro places accepted
      obtain ⟨place, rest, rfl, here, there⟩ := accepted.cons
      refine Decoder.Yields.bind (readFirst place here) ?_
      intro head _
      exact Decoder.Yields.map (head :: ·) (readOthers rest there)

/-- Out of place, a list that travels is read into fresh storage as it is. -/
theorem reads_fresh {reader : List Value → Decoder Raised (List Value)} {arriving : List Value}
    {bytes : List UInt8} {len : Nat} (fresh : ctx.inPlace = false) (sized : arriving.length = len)
    (read : ∀ places, ctx.AcceptsAll places arriving →
      (reader places).Yields bytes (overlayAll places arriving)) :
    (reader (List.replicate len .unset)).Yields bytes (some arriving) := by
  subst sized
  rw [← overlayAll_unset arriving]
  exact read _ (DeserializeContext.acceptsAll_unset fresh arriving)

/-- A fixed array travels as its elements. -/
theorem travels_fixedArray {element : Value → Prop} {extent : Nat} {value : Value}
    {writer : Value → Written Raised} {reader : Value → Decoder Raised Value}
    {arriving : Value → Value} (wf : WellFormedArray element extent value)
    (each : ∀ x, element x → Travels ctx (writer x) reader (arriving x)) :
    Travels ctx (serializeFixedArray writer extent value)
      (deserializeFixedArray reader extent) (receivedArray arriving value) := by
  cases value with
  | aggregate elements =>
    obtain ⟨rfl, typed⟩ := wf
    obtain ⟨bytes, wrote, read⟩ := travelsAll_array fun x member => each x (typed x member)
    refine ⟨bytes, wrote, ?_⟩
    intro place accepted
    obtain ⟨inner, same⟩ := accepted.parts (List.length_map arriving)
    rw [receivedArray, same]
    exact Decoder.Yields.map Value.aggregate (read _ inner)
  | _ => exact wf.elim

/-- A null pointer travels as the marker zero. -/
theorem travels_nullptr (size : Nat)
    (reader : Value → Decoder Raised Value) :
    Travels ctx (.complete (toBytes 4 0)) (deserializePtr p ctx size reader) .null := by
  refine ⟨_, rfl, ?_⟩
  intro place accepted
  rw [← List.append_nil (toBytes 4 0)]
  refine Decoder.Yields.afterWord Raised.endOfFile (by decide) ?_
  obtain ⟨fresh, rfl⟩ | ⟨existing, fits⟩ := accepted.mode
  · simp only [fresh, ne_eq, not_true_eq_false, if_false, Bool.false_eq_true]
    exact Decoder.Yields.pure _
  · simp only [existing, ne_eq, not_true_eq_false, if_false, if_true]
    cases place with
    | null => exact Decoder.Yields.pure _
    | block places => exact Decoder.Yields.raise _ _
    | _ => exact fits.elim

section

variable (granted : ∀ size, p.malloc size = true)

include granted

/-- A counted pointer travels as its count and its elements, and as null when there are none. -/
theorem travels_ptr {element : Value → Prop} {count : Option Nat} {value : Value} {size : Nat}
    {writer : Value → Written Raised} {reader : Value → Decoder Raised Value}
    {arriving : Value → Value} (wf : WellFormedPtr element count value)
    (each : ∀ x, element x → Travels ctx (writer x) reader (arriving x)) :
    ∃ len, count = some len ∧
      Travels ctx (serializePtr writer len value) (deserializePtr p ctx size reader)
        (receivedPtr arriving value) := by
  cases value with
  | null =>
    obtain ⟨len, counted⟩ := Option.isSome_iff_exists.mp wf
    exact ⟨len, counted, travels_nullptr size reader⟩
  | block elements =>
    obtain ⟨counted, small, typed⟩ := wf
    refine ⟨elements.length, counted, ?_⟩
    cases elements with
    | nil => exact travels_nullptr size reader
    | cons first rest =>
      have marker : (first :: rest).length % 2 ^ 32 = (first :: rest).length :=
        Nat.mod_eq_of_lt small
      have positive : (first :: rest).length ≠ 0 := by simp
      obtain ⟨bytes, wrote, read⟩ := travelsAll_array fun x member => each x (typed x member)
      refine ⟨toBytes 4 (first :: rest).length ++ bytes, ?_, ?_⟩
      · simp only [serializePtr, marker, ne_eq, positive, not_false_eq_true, if_true, wrote,
          Written.complete_andThen]
      · intro place accepted
        refine Decoder.Yields.afterWord Raised.endOfFile small ?_
        simp only [ne_eq, positive, not_false_eq_true, if_true]
        obtain ⟨fresh, rfl⟩ | ⟨existing, fits⟩ := accepted.mode
        · simp only [fresh, Bool.false_eq_true, if_false, granted, allocate, allocated, if_true]
          have elements := reads_fresh fresh (List.length_map arriving) read
          exact Decoder.Yields.andThen elements (Decoder.Yields.pure _)
        · simp only [existing, if_true]
          cases place with
          | block places =>
            have elements :=
              read places (DeserializeContext.acceptsAll_fits existing fits)
            exact Decoder.Yields.map Value.block elements
          | _ => exact fits.elim
  | _ => exact wf.elim

/-- A string of a hand-written struct travels as a counted pointer. -/
theorem travels_name {name : Value} (wf : WellFormedName name) :
    Travels ctx (serializeName name) (deserializeName p ctx)
      (receivedPtr id name) := by
  obtain ⟨len, counted, travels⟩ := travels_ptr granted wf fun x (wf : WellFormedPlain 1 x) =>
    travels_plain wf
  rw [serializeName, counted]
  exact travels

omit granted in
/-- The serializer's loop over an array of pointers. -/
theorem serializeEach_block (writer : Value → Written Raised) (elements : List Value) :
    serializeEach writer (.plain elements.length) (.block elements) =
      serializeArray writer elements.length elements := by
  cases elements with
  | nil => rfl
  | cons first rest => rfl

/-- An array of pointers of a hand-written struct travels as its elements alone. -/
theorem travels_each {element : Value → Prop} {count : Nat} {pointer : Value}
    {writer : Value → Written Raised} {reader : Value → Decoder Raised Value}
    {arriving : Value → Value} (wf : WellFormedEach element (.plain count) pointer)
    (each : ∀ x, element x → Travels ctx (writer x) reader (arriving x)) :
    Travels ctx (serializeEach writer (.plain count) pointer)
      (deserializeEach b p ctx reader (.plain count)) (receivedEach arriving pointer) := by
  have elements : ∃ elements : List Value, count = elements.length ∧
      (∀ x ∈ elements, element x) ∧
      receivedEach arriving pointer = .block (elements.map arriving) ∧
      serializeEach writer (.plain count) pointer =
        serializeArray writer elements.length elements := by
    cases pointer with
    | null =>
      obtain rfl : count = 0 := wf
      exact ⟨[], rfl, by simp, rfl, rfl⟩
    | block elements =>
      obtain ⟨rfl, typed⟩ := wf
      exact ⟨elements, rfl, typed, rfl, serializeEach_block writer elements⟩
    | _ => exact wf.elim
  obtain ⟨elements, rfl, typed, arrives, writes⟩ := elements
  rw [arrives, writes]
  obtain ⟨bytes, wrote, read⟩ := travelsAll_array fun x member => each x (typed x member)
  refine ⟨bytes, wrote, ?_⟩
  intro place accepted
  obtain ⟨fresh, rfl⟩ | ⟨existing, fits⟩ := accepted.mode
  · simp only [deserializeEach, fresh, Bool.false_eq_true, if_false, granted, allocate, allocated,
      if_true]
    change (deserializeArray reader elements.length _ >>= _).Yields _ _
    have block := reads_fresh fresh (List.length_map arriving) read
    exact Decoder.Yields.andThen block (Decoder.Yields.pure _)
  · simp only [deserializeEach, existing, if_true]
    cases place with
    | block places =>
      have block := read places (DeserializeContext.acceptsAll_fits existing fits)
      exact Decoder.Yields.map Value.block block
    | null =>
      cases elements with
      | nil =>
        obtain rfl : bytes = [] := by simpa [serializeArray, Written.complete] using wrote.symm
        exact Decoder.Yields.pure _
      | cons first rest => exact fits.elim
    | _ => exact fits.elim

variable {typed : String → Value → Prop} {writer : String → Value → Written Raised}
variable {reader : String → Value → Decoder Raised Value} {arriving : String → Value → Value}
variable (sctx) (carry : Carries ctx typed writer reader arriving)

include carry

/-- A chained struct travels as its structure type and itself. -/
theorem travels_xr {value : Value} (isConst : Bool) (wf : WellFormedXr b typed value) :
    Travels ctx (serializeXr b sctx writer value)
      (deserializeXr b p ctx reader isConst) (receivedXr arriving value) := by
  cases value with
  | nullStruct =>
    refine ⟨_, rfl, ?_⟩
    intro place accepted
    rw [← List.append_nil (toBytes 4 typeUnknown)]
    refine Decoder.Yields.afterWord Raised.endOfFile (by decide) ?_
    obtain ⟨fresh, rfl⟩ | ⟨existing, fits⟩ := accepted.mode
    · simp only [fresh, ne_eq, not_true_eq_false, if_false, Bool.false_eq_true]
      exact Decoder.Yields.pure _
    · simp only [existing, ne_eq, not_true_eq_false, if_false, if_true]
      cases place with
      | nullStruct => exact Decoder.Yields.pure _
      | _ => exact fits.elim
  | chained name object =>
    obtain ⟨type, struct, tagged, small, found, rfl, wellTyped⟩ := wf
    obtain ⟨rest, rfl⟩ := Value.structureType_eq_some tagged
    obtain ⟨bytes, wrote, read⟩ := carry _ _ wellTyped
    have known := b.lookup_ne_typeUnknown found
    refine ⟨toBytes 4 type ++ bytes, ?_, ?_⟩
    · rw [serializeXr_registered b sctx writer _ found, wrote, Written.complete_andThen]
    · intro place accepted
      refine Decoder.Yields.afterWord Raised.endOfFile small ?_
      simp only [ne_eq, known, not_false_eq_true, if_true]
      obtain ⟨fresh, rfl⟩ | ⟨existing, fits⟩ := accepted.mode
      · simp only [fresh, Bool.false_eq_true, if_false, found, granted, allocated, if_true]
        have object := read .unset (DeserializeContext.accepts_unset fresh _)
        exact Decoder.Yields.andThen object (Decoder.Yields.pure _)
      · simp only [existing, if_true]
        cases place with
        | chained name' place' =>
          obtain ⟨rfl, inner⟩ := fits
          have object := read place' (DeserializeContext.accepts_fits existing inner)
          simp only [deserializeXrInto, found, if_true]
          exact Decoder.Yields.map (Value.chained struct.name) object
        | _ => exact fits.elim
  | _ => exact wf.elim

/-- An array of structs behind a base struct travels as its count, its structure type and its
elements. -/
theorem travels_xrArray {count : Option Nat} {value : Value}
    (wf : WellFormedXrArray b typed count value) :
    ∃ len, count = some len ∧
      Travels ctx (serializeXrArray b sctx writer len value) (deserializeXrArray b p ctx reader)
        (receivedXrArray arriving value) := by
  cases value with
  | nullStruct =>
    obtain ⟨len, counted⟩ := Option.isSome_iff_exists.mp wf
    refine ⟨len, counted, _, rfl, ?_⟩
    intro place accepted
    rw [← List.append_nil (toBytes 4 0)]
    refine Decoder.Yields.afterWord Raised.endOfFile (by decide) ?_
    simp only [ne_eq, not_true_eq_false, if_false]
    obtain ⟨fresh, rfl⟩ | ⟨existing, fits⟩ := accepted.mode
    · exact Decoder.Yields.pure _
    · cases place with
      | nullStruct => exact Decoder.Yields.pure _
      | _ => exact fits.elim
  | chainedArray name elements =>
    obtain ⟨counted, positive, small, type, struct, smallType, found, rfl, each⟩ := wf
    refine ⟨elements.length, counted, ?_⟩
    have marker : elements.length % 2 ^ 32 = elements.length := Nat.mod_eq_of_lt small
    have some : elements.length ≠ 0 := Nat.pos_iff_ne_zero.mp positive
    obtain ⟨bytes, wrote, read⟩ := travelsAll_array fun x member =>
      carry struct.name x (each x member).2
    refine ⟨toBytes 4 elements.length ++ (toBytes 4 type ++ bytes), ?_, ?_⟩
    · cases elements with
      | nil => exact absurd rfl some
      | cons first rest =>
        have tagged := (each first (by simp)).1
        simp only [serializeXrArray, tagged, found, marker, wrote, Written.complete_andThen,
          List.append_assoc]
    · intro place accepted
      refine Decoder.Yields.afterWord Raised.endOfFile small ?_
      simp only [ne_eq, some, not_false_eq_true, if_true]
      refine Decoder.Yields.afterWord Raised.endOfFile smallType ?_
      obtain ⟨fresh, rfl⟩ | ⟨existing, fits⟩ := accepted.mode
      · simp only [fresh, Bool.false_eq_true, if_false, found, granted, allocate, allocated,
          if_true]
        change (deserializeArray (reader struct.name) elements.length _ >>= _).Yields _ _
        have elements := reads_fresh fresh (List.length_map (arriving struct.name)) read
        exact Decoder.Yields.andThen elements (Decoder.Yields.pure _)
      · simp only [existing, if_true]
        cases place with
        | chainedArray name' places =>
          obtain ⟨rfl, inner⟩ := fits
          have elements := read places (DeserializeContext.acceptsAll_fits existing inner)
          simp only [deserializeXrArrayInto, found, if_true]
          exact Decoder.Yields.map (Value.chainedArray struct.name) elements
        | _ => exact fits.elim
  | _ => exact wf.elim

/-- Every kind of member travels. -/
theorem travels_member {members : List XrParam} {values : List Value} {member : XrParam}
    {value : Value} (wf : WellFormedMember b typed members values member value) :
    Travels ctx (serializeMember b sctx writer members values member value)
      (deserializeMember b p ctx reader member)
      (receivedMember b sctx.timeOffset ctx.timeOffset arriving member value) := by
  unfold WellFormedMember at wf
  unfold serializeMember deserializeMember receivedMember
  cases known : memberKind b member with
  | none => simp [known] at wf
  | some kind =>
    simp only [known] at wf ⊢
    cases kind with
    | xrArray len =>
      obtain ⟨count, counted, travels⟩ := travels_xrArray sctx granted carry wf
      simp only [counted]
      exact travels
    | xr => exact travels_xr sctx granted carry _ wf
    | ptr count =>
      obtain ⟨len, counted, travels⟩ := travels_ptr granted wf fun x typed => carry _ x typed
      simp only [counted]
      exact travels
    | array extent =>
      exact travels_fixedArray wf fun x typed => carry _ x typed
    | time => exact travels_time wf
    | value => exact carry _ _ wf

/-- Members travel in order. -/
theorem travels_members {members : List XrParam} {values : List Value} (rest : List XrParam)
    (others : List Value) (wf : WellFormedMembers b typed members values rest others) :
    TravelsAll ctx (serializeMembers b sctx writer members values rest others)
      (deserializeMembers b p ctx reader rest)
      (receivedMembers b sctx.timeOffset ctx.timeOffset arriving rest others) := by
  induction rest generalizing others with
  | nil =>
    cases others with
    | nil =>
      refine ⟨[], rfl, ?_⟩
      intro places accepted
      rw [accepted.nil]
      exact Decoder.Yields.pure _
    | cons value others => exact wf.elim
  | cons member rest ih =>
    cases others with
    | nil => exact wf.elim
    | cons value others =>
      obtain ⟨first, wroteFirst, readFirst⟩ := travels_member sctx granted carry wf.1
      obtain ⟨after, wroteAfter, readAfter⟩ := ih others wf.2
      refine ⟨first ++ after, ?_, ?_⟩
      · simp [serializeMembers, wroteFirst, wroteAfter]
      · intro places accepted
        obtain ⟨place, places, rfl, here, there⟩ := accepted.cons
        refine Decoder.Yields.bind (readFirst place here) ?_
        intro head _
        exact Decoder.Yields.map (head :: ·) (readAfter places there)

omit granted carry in
/-- A count is laid over its place as it is. -/
theorem overlay_count {place value : Value} {count : Nat}
    (accepted : ctx.Accepts place (.plain count))
    (found : place.overlay (.plain count) = some value) : value = .plain count := by
  obtain rfl | ⟨old, rfl⟩ := accepts_plain accepted
  · exact (Option.some.inj found).symm
  · exact (Option.some.inj found).symm

omit granted carry in
/-- The count of a well-formed array of pointers is a number. -/
theorem wellFormedEach_count {element : Value → Prop} {count pointer : Value}
    (wf : WellFormedEach element count pointer) : ∃ n, count = .plain n := by
  cases count with
  | plain n => exact ⟨n, rfl⟩
  | _ => exact wf.elim

/-- The hand-written functions for `XrInstanceCreateInfo` agree. -/
theorem travels_instanceCreateInfo {values : List Value}
    (wf : WellFormedInstanceCreateInfo b typed values) :
    ∃ bytes, serializeInstanceCreateInfo b sctx writer values = .complete bytes ∧
      ∀ places, ctx.AcceptsAll places
          (receivedInstanceCreateInfo arriving values) →
        (deserializeInstanceCreateInfo b p ctx reader places).Yields bytes
          ((overlayAll places (receivedInstanceCreateInfo arriving values)).map .aggregate) := by
  unfold WellFormedInstanceCreateInfo at wf
  split at wf
  · obtain ⟨w₀, w₁, w₂, w₃, w₄, w₅, w₆, w₇⟩ := wf
    obtain ⟨layers, rfl⟩ := wellFormedEach_count w₅
    obtain ⟨extensions, rfl⟩ := wellFormedEach_count w₇
    have word : ∀ size x, WellFormedPlain size x →
        Travels ctx (serializePlain size x) (deserializePlain size) x := fun _ _ => travels_plain
    have name : ∀ x, WellFormedName x → Travels ctx (serializeName x)
        (deserializeName p ctx) (receivedPtr id x) := fun _ => travels_name granted
    have chain : Travels ctx (serializeXr b sctx writer _)
        (deserializeXr b p ctx reader true) _ := travels_xr sctx granted carry true w₁
    obtain ⟨b₀, e₀, r₀⟩ := word 4 _ w₀
    obtain ⟨b₁, e₁, r₁⟩ := chain
    obtain ⟨b₂, e₂, r₂⟩ := word 8 _ w₂
    obtain ⟨b₃, e₃, r₃⟩ := carry _ _ w₃
    obtain ⟨b₄, e₄, r₄⟩ := word 4 _ w₄
    obtain ⟨b₅, e₅, r₅⟩ := travels_each (b := b) granted w₅ name
    obtain ⟨b₆, e₆, r₆⟩ := word 4 _ w₆
    obtain ⟨b₇, e₇, r₇⟩ := travels_each (b := b) granted w₇ name
    refine ⟨b₀ ++ (b₁ ++ (b₂ ++ (b₃ ++ (b₄ ++ (b₅ ++ (b₆ ++ (b₇ ++ []))))))), ?_, ?_⟩
    · simp only [serializeInstanceCreateInfo, Written.all, e₀, e₁, e₂, e₃, e₄, e₅, e₆, e₇,
        Written.complete_andThen]
    · intro places accepted
      obtain ⟨p₀, _, rfl, a₀, accepted⟩ := accepted.cons
      obtain ⟨p₁, _, rfl, a₁, accepted⟩ := accepted.cons
      obtain ⟨p₂, _, rfl, a₂, accepted⟩ := accepted.cons
      obtain ⟨p₃, _, rfl, a₃, accepted⟩ := accepted.cons
      obtain ⟨p₄, _, rfl, a₄, accepted⟩ := accepted.cons
      obtain ⟨p₅, _, rfl, a₅, accepted⟩ := accepted.cons
      obtain ⟨p₆, _, rfl, a₆, accepted⟩ := accepted.cons
      obtain ⟨p₇, _, rfl, a₇, accepted⟩ := accepted.cons
      obtain rfl := accepted.nil
      simp only [receivedInstanceCreateInfo, overlayAll, Option.map_eq_bind, Option.bind_assoc,
        Option.bind_some, Function.comp]
      refine Decoder.Yields.bind (r₀ p₀ a₀) fun v₀ _ => ?_
      refine Decoder.Yields.bind (r₁ p₁ a₁) fun v₁ _ => ?_
      refine Decoder.Yields.bind (r₂ p₂ a₂) fun v₂ _ => ?_
      refine Decoder.Yields.bind (r₃ p₃ a₃) fun v₃ _ => ?_
      refine Decoder.Yields.bind (r₄ p₄ a₄) fun v₄ found => ?_
      obtain rfl := overlay_count a₄ found
      refine Decoder.Yields.bind (r₅ p₅ a₅) fun v₅ _ => ?_
      refine Decoder.Yields.bind (r₆ p₆ a₆) fun v₆ found => ?_
      obtain rfl := overlay_count a₆ found
      refine Decoder.Yields.bind (r₇ p₇ a₇) fun v₇ _ => ?_
      exact Decoder.Yields.pure _
  · exact wf.elim

/-- The hand-written functions for `XrFrameEndInfo` agree. -/
theorem travels_frameEndInfo {values : List Value} (wf : WellFormedFrameEndInfo b typed values) :
    ∃ bytes, serializeFrameEndInfo b sctx writer values = .complete bytes ∧
      ∀ places, ctx.AcceptsAll places
          (receivedFrameEndInfo sctx.timeOffset ctx.timeOffset arriving values) →
        (deserializeFrameEndInfo b p ctx reader places).Yields bytes
          ((overlayAll places
            (receivedFrameEndInfo sctx.timeOffset ctx.timeOffset arriving values)).map
              .aggregate) := by
  unfold WellFormedFrameEndInfo at wf
  split at wf
  · obtain ⟨w₀, w₁, w₂, w₃, w₄, w₅⟩ := wf
    obtain ⟨count, rfl⟩ := wellFormedEach_count w₅
    have word : ∀ size x, WellFormedPlain size x →
        Travels ctx (serializePlain size x) (deserializePlain size) x := fun _ _ => travels_plain
    have chain : ∀ x, WellFormedXr b typed x →
        Travels ctx (serializeXr b sctx writer x)
          (deserializeXr b p ctx reader true) (receivedXr arriving x) :=
      fun _ => travels_xr sctx granted carry true
    have time : Travels ctx (serializeTime sctx _) (deserializeTime ctx) _ :=
      travels_time w₂
    obtain ⟨b₀, e₀, r₀⟩ := word 4 _ w₀
    obtain ⟨b₁, e₁, r₁⟩ := chain _ w₁
    obtain ⟨b₂, e₂, r₂⟩ := time
    obtain ⟨b₃, e₃, r₃⟩ := word 4 _ w₃
    obtain ⟨b₄, e₄, r₄⟩ := word 4 _ w₄
    obtain ⟨b₅, e₅, r₅⟩ := travels_each (b := b) granted w₅ chain
    refine ⟨b₀ ++ (b₁ ++ (b₂ ++ (b₃ ++ (b₄ ++ (b₅ ++ []))))), ?_, ?_⟩
    · simp only [serializeFrameEndInfo, Written.all, e₀, e₁, e₂, e₃, e₄, e₅,
        Written.complete_andThen]
    · intro places accepted
      obtain ⟨p₀, _, rfl, a₀, accepted⟩ := accepted.cons
      obtain ⟨p₁, _, rfl, a₁, accepted⟩ := accepted.cons
      obtain ⟨p₂, _, rfl, a₂, accepted⟩ := accepted.cons
      obtain ⟨p₃, _, rfl, a₃, accepted⟩ := accepted.cons
      obtain ⟨p₄, _, rfl, a₄, accepted⟩ := accepted.cons
      obtain ⟨p₅, _, rfl, a₅, accepted⟩ := accepted.cons
      obtain rfl := accepted.nil
      simp only [receivedFrameEndInfo, overlayAll, Option.map_eq_bind, Option.bind_assoc,
        Option.bind_some, Function.comp]
      refine Decoder.Yields.bind (r₀ p₀ a₀) fun v₀ _ => ?_
      refine Decoder.Yields.bind (r₁ p₁ a₁) fun v₁ _ => ?_
      refine Decoder.Yields.bind (r₂ p₂ a₂) fun v₂ _ => ?_
      refine Decoder.Yields.bind (r₃ p₃ a₃) fun v₃ _ => ?_
      refine Decoder.Yields.bind (r₄ p₄ a₄) fun v₄ found => ?_
      obtain rfl := overlay_count a₄ found
      refine Decoder.Yields.bind (r₅ p₅ a₅) fun v₅ _ => ?_
      exact Decoder.Yields.pure _
  · exact wf.elim

omit granted carry in
/-- An `XrInstanceCreateInfo` arrives with eight members. -/
theorem length_receivedInstanceCreateInfo {values : List Value}
    (wf : WellFormedInstanceCreateInfo b typed values) :
    (receivedInstanceCreateInfo arriving values).length = 8 := by
  unfold WellFormedInstanceCreateInfo at wf
  split at wf
  · rfl
  · exact wf.elim

omit granted carry in
/-- An `XrFrameEndInfo` arrives with six members. -/
theorem length_receivedFrameEndInfo {values : List Value} (sender receiver : UInt64)
    (wf : WellFormedFrameEndInfo b typed values) :
    (receivedFrameEndInfo sender receiver arriving values).length = 6 := by
  unfold WellFormedFrameEndInfo at wf
  split at wf
  · rfl
  · exact wf.elim

omit granted carry in
/-- As many members arrive as were sent. -/
theorem length_receivedMembers {members : List XrParam} {values : List Value}
    (sender receiver : UInt64) (rest : List XrParam) (others : List Value)
    (wf : WellFormedMembers b typed members values rest others) :
    (receivedMembers b sender receiver arriving rest others).length = rest.length := by
  induction rest generalizing others with
  | nil => cases others <;> rfl
  | cons member rest ih =>
    cases others with
    | nil => exact wf.elim
    | cons value others => simp [receivedMembers, ih others wf.2]

omit granted carry in
/-- A struct travels when its members do. -/
theorem travels_aggregate {count : Nat}
    {written : Written Raised} {reader : List Value → Decoder Raised Value}
    {arriving : List Value} (sized : arriving.length = count)
    (travels : ∃ bytes, written = .complete bytes ∧
      ∀ places, ctx.AcceptsAll places arriving →
        (reader places).Yields bytes ((overlayAll places arriving).map .aggregate)) :
    Travels ctx written (fun place => reader (place.places count))
      (.aggregate arriving) := by
  obtain ⟨bytes, wrote, read⟩ := travels
  refine ⟨bytes, wrote, ?_⟩
  intro place accepted
  obtain ⟨parts, same⟩ := accepted.parts sized
  rw [same]
  exact read _ parts

/-- A struct travels, whether its functions are generated or written by hand. -/
theorem travels_struct {struct : XrStruct} {value : Value}
    (wf : WellFormedStruct b typed struct value) :
    Travels ctx (serializeStruct b sctx writer struct value)
      (deserializeStruct b p ctx reader struct)
      (receivedStruct b sctx.timeOffset ctx.timeOffset arriving struct value) := by
  cases value with
  | aggregate values =>
    obtain ⟨notHeader, wf⟩ := wf
    unfold serializeStruct deserializeStruct receivedStruct
    simp only [notHeader, Bool.false_eq_true, if_false]
    by_cases instanceCreate : struct.name = instanceCreateInfoName
    · simp only [instanceCreate, if_true] at wf ⊢
      exact travels_aggregate
        (length_receivedInstanceCreateInfo wf)
        (travels_instanceCreateInfo sctx granted carry wf)
    · simp only [instanceCreate, if_false] at wf ⊢
      by_cases frameEnd : struct.name = frameEndInfoName
      · simp only [frameEnd, if_true] at wf ⊢
        exact travels_aggregate
          (length_receivedFrameEndInfo _ _ wf)
          (travels_frameEndInfo sctx granted carry wf)
      · simp only [frameEnd, if_false] at wf ⊢
        obtain ⟨bytes, wrote, read⟩ :=
          travels_members (p := p) sctx granted carry _ _ wf
        exact travels_aggregate
          (length_receivedMembers _ _ _ _ wf)
          ⟨bytes, wrote, fun places accepted => (read places accepted).map Value.aggregate⟩
  | _ => exact wf.elim

/-- A value of a C type travels when the values it is made of do. -/
theorem travels_type {type : String} {value : Value} (wf : WellFormedType b typed type value) :
    Travels ctx (serializeType b sctx writer type value)
      (deserializeType b p ctx reader type)
      (receivedType b sctx.timeOffset ctx.timeOffset arriving type value) := by
  unfold WellFormedType at wf
  unfold serializeType deserializeType receivedType
  cases found : b.findStruct type with
  | none =>
    simp only [found] at wf
    exact travels_plain wf
  | some struct =>
    simp only [found] at wf
    exact travels_struct sctx granted carry wf

end

/-- Well-formed values travel, with fuel for as many nested calls as they nest. -/
theorem carries (ctx : DeserializeContext) (sctx : SerializeContext)
    (granted : ∀ size, p.malloc size = true) (depth : Nat) :
    ∀ writerFuel ≥ depth, ∀ readerFuel ≥ depth,
      Carries ctx (WellFormed b depth) (serialize b sctx writerFuel)
        (deserialize b p ctx readerFuel)
        (received b sctx.timeOffset ctx.timeOffset depth) := by
  induction depth with
  | zero => exact fun _ _ _ _ _ _ wf => wf.elim
  | succ depth ih =>
    intro writerFuel enoughToWrite readerFuel enoughToRead
    obtain ⟨writerFuel, rfl⟩ := Nat.exists_eq_add_of_le' enoughToWrite
    obtain ⟨readerFuel, rfl⟩ := Nat.exists_eq_add_of_le' enoughToRead
    have below := ih (writerFuel + depth) (by omega) (readerFuel + depth) (by omega)
    intro type value wf
    exact travels_type sctx granted below wf

/-- Out of place, the bytes of a well-formed value in front of any suffix are read back as the
received value, and the suffix is left. -/
theorem deserialize_serialize (granted : ∀ size, p.malloc size = true) {depth : Nat}
    {type : String} {value : Value} (wf : WellFormed b depth type value)
    (sctx : SerializeContext) (receiver : UInt64) (fuel : Nat) (enough : depth ≤ fuel) :
    ∃ bytes, serialize b sctx fuel type value = .complete bytes ∧
      ∀ suffix, deserialize b p { timeOffset := receiver } fuel type .unset (bytes ++ suffix) =
        .done (received b sctx.timeOffset receiver depth type value) suffix := by
  obtain ⟨bytes, wrote, read⟩ :=
    carries { timeOffset := receiver } sctx granted depth fuel enough fuel enough type value wf
  have fresh := read .unset (DeserializeContext.accepts_unset rfl _)
  rw [Value.overlay] at fresh
  exact ⟨bytes, wrote, fresh⟩

/-- `XrFrameEndInfo` as the registry declares it, but for the pointers behind `layers`. -/
def frameEndInfo : XrStruct where
  name := "XrFrameEndInfo"
  xrType := some 12
  members := [
    { type := "XrStructureType", name := "type" },
    { qualifier := some "const", type := "void", pointer := some "*", name := "next" },
    { type := "XrTime", name := "displayTime" },
    { type := "XrEnvironmentBlendMode", name := "environmentBlendMode" },
    { type := "uint32_t", name := "layerCount" },
    { qualifier := some "const", type := "XrCompositionLayerBaseHeader",
      pointer := some "* const*", name := "layers", len := some "layerCount" }]

/-- A registry of one struct. -/
def frameEndBuild : Build where
  structs := [frameEndInfo]
  extensions := [(none, [frameEndInfo])]
  enabled _ := false
  sizeOf type := if type = "XrFrameEndInfo" then 40 else if type = "void*" then 8 else 4
  extent _ := 0
  nesting type := if type = "XrFrameEndInfo" then 1 else 0
  nested := by simp [frameEndInfo, XrStruct.inline, instanceCreateInfoName]
  distinct := by simp [frameEndInfo]
  typed := by simp [frameEndInfo, typeUnknown]

/-- A platform whose allocations succeed. -/
def plentiful : Platform where
  ndebug := true
  malloc _ := true

/-- A frame without layers, as an application submits it. -/
def emptyFrame : Value :=
  .aggregate [.plain 12, .nullStruct, .plain 1000, .plain 1, .plain 0, .null]

/-- A frame without layers is well formed. -/
theorem wellFormed_emptyFrame : WellFormed frameEndBuild 2 "XrFrameEndInfo" emptyFrame := by
  simp [WellFormed, WellFormedType, WellFormedStruct, WellFormedFrameEndInfo, WellFormedXr,
    WellFormedTime, WellFormedEach, WellFormedPlain, Build.findStruct, frameEndBuild, frameEndInfo,
    emptyFrame, instanceCreateInfoName, frameEndInfoName]

/-- The array of layers, null when it was sent, is an allocated one when it is received. -/
theorem emptyFrame_gains_layers :
    WellFormed frameEndBuild 2 "XrFrameEndInfo" emptyFrame ∧
      ¬∃ bytes, serialize frameEndBuild {} 2 "XrFrameEndInfo" emptyFrame = .complete bytes ∧
        deserialize frameEndBuild plentiful {} 2 "XrFrameEndInfo" .unset bytes =
          .done emptyFrame [] := by
  refine ⟨wellFormed_emptyFrame, ?_⟩
  rintro ⟨bytes, wrote, read⟩
  have written : serialize frameEndBuild {} 2 "XrFrameEndInfo" emptyFrame =
      .complete (toBytes 4 12 ++ toBytes 4 0 ++ toBytes 8 1000 ++ toBytes 4 1 ++ toBytes 4 0) := rfl
  rw [written, Written.complete, Written.complete, Written.mk.injEq] at wrote
  obtain ⟨rfl, _⟩ := wrote
  have arrived : deserialize frameEndBuild plentiful {} 2 "XrFrameEndInfo" .unset
      (toBytes 4 12 ++ toBytes 4 0 ++ toBytes 8 1000 ++ toBytes 4 1 ++ toBytes 4 0) =
      .done (.aggregate [.plain 12, .nullStruct, .plain 1000, .plain 1, .plain 0, .block []]) [] :=
    rfl
  rw [arrived] at read
  simp [emptyFrame] at read

/-- `XrFrameEndInfoML`, which extends the end of a frame. -/
def frameEndInfoML : XrStruct where
  name := "XrFrameEndInfoML"
  xrType := some 1000135000
  members := [
    { type := "XrStructureType", name := "type" },
    { qualifier := some "const", type := "void", pointer := some "*", name := "next" },
    { type := "float", name := "focusDistance" },
    { type := "XrFrameEndInfoFlagsML", name := "flags" }]

/-- `XrCompositionLayerPassthroughFB`, a layer. -/
def passthroughLayer : XrStruct where
  name := "XrCompositionLayerPassthroughFB"
  xrType := some 1000118003
  members := [
    { type := "XrStructureType", name := "type" },
    { qualifier := some "const", type := "void", pointer := some "*", name := "next" },
    { type := "XrCompositionLayerFlags", name := "flags" },
    { type := "XrSpace", name := "space" },
    { type := "XrPassthroughLayerFB", name := "layerHandle" }]

/-- A registry of the three structs. -/
def layeredBuild : Build where
  structs := [frameEndInfo, frameEndInfoML, passthroughLayer]
  extensions := [(none, [frameEndInfo, frameEndInfoML, passthroughLayer])]
  enabled _ := false
  sizeOf type :=
    if type ∈ ["XrStructureType", "XrEnvironmentBlendMode", "uint32_t", "float"] then 4 else 8
  extent _ := 0
  nesting type :=
    if type ∈ ["XrFrameEndInfo", "XrFrameEndInfoML", "XrCompositionLayerPassthroughFB"] then 1
    else 0
  nested := by decide
  distinct := by simp [frameEndInfo, frameEndInfoML, passthroughLayer]
  typed := by simp [frameEndInfo, frameEndInfoML, passthroughLayer, typeUnknown]

/-- A frame at a time with a struct chained to it and one layer. -/
def layeredFrame (displayTime : Nat) : Value :=
  .aggregate [
    .plain 12,
    .chained "XrFrameEndInfoML" (.aggregate [.plain 1000135000, .nullStruct, .plain 5, .plain 1]),
    .plain displayTime, .plain 1, .plain 1,
    .block [.chained "XrCompositionLayerPassthroughFB"
      (.aggregate [.plain 1000118003, .nullStruct, .plain 2, .plain 70, .plain 80])]]

/-- The struct chained to the frame is well formed. -/
theorem wellFormed_frameEndInfoML :
    WellFormed layeredBuild 2 "XrFrameEndInfoML"
      (.aggregate [.plain 1000135000, .nullStruct, .plain 5, .plain 1]) := by
  have found : layeredBuild.findStruct "XrFrameEndInfoML" = some frameEndInfoML := by decide
  have kinds : frameEndInfoML.members.map (memberKind layeredBuild) =
      [some .value, some .xr, some .value, some .value] := by
    decide
  simp only [frameEndInfoML, List.map_cons, List.cons.injEq] at kinds
  obtain ⟨type, next, focusDistance, flags, -⟩ := kinds
  show WellFormedType layeredBuild (WellFormed layeredBuild 1) "XrFrameEndInfoML" _
  simp only [WellFormedType, found, WellFormedStruct]
  refine ⟨rfl, ?_⟩
  rw [if_neg (by decide), if_neg (by decide)]
  simp only [frameEndInfoML, WellFormedMembers, WellFormedMember, type, next, focusDistance, flags]
  exact ⟨wellFormed_plain (by decide) (by decide), trivial,
    wellFormed_plain (by decide) (by decide), wellFormed_plain (by decide) (by decide), trivial⟩

/-- So is the layer. -/
theorem wellFormed_passthroughLayer :
    WellFormed layeredBuild 2 "XrCompositionLayerPassthroughFB"
      (.aggregate [.plain 1000118003, .nullStruct, .plain 2, .plain 70, .plain 80]) := by
  have found :
      layeredBuild.findStruct "XrCompositionLayerPassthroughFB" = some passthroughLayer := by
    decide
  have kinds : passthroughLayer.members.map (memberKind layeredBuild) =
      [some .value, some .xr, some .value, some .value, some .value] := by
    decide
  simp only [passthroughLayer, List.map_cons, List.cons.injEq] at kinds
  obtain ⟨type, next, flags, space, layerHandle, -⟩ := kinds
  show WellFormedType layeredBuild (WellFormed layeredBuild 1) "XrCompositionLayerPassthroughFB" _
  simp only [WellFormedType, found, WellFormedStruct]
  refine ⟨rfl, ?_⟩
  rw [if_neg (by decide), if_neg (by decide)]
  simp only [passthroughLayer, WellFormedMembers, WellFormedMember, type, next, flags, space,
    layerHandle]
  exact ⟨wellFormed_plain (by decide) (by decide), trivial,
    wellFormed_plain (by decide) (by decide), wellFormed_plain (by decide) (by decide),
    wellFormed_plain (by decide) (by decide), trivial⟩

/-- So is the frame. -/
theorem wellFormed_layeredFrame :
    WellFormed layeredBuild 3 "XrFrameEndInfo" (layeredFrame 1000) := by
  have found : layeredBuild.findStruct "XrFrameEndInfo" = some frameEndInfo := by decide
  show WellFormedType layeredBuild (WellFormed layeredBuild 2) "XrFrameEndInfo" _
  simp only [WellFormedType, found, WellFormedStruct, layeredFrame]
  refine ⟨rfl, ?_⟩
  rw [if_neg (by decide), if_pos (by decide)]
  have chain : WellFormedXr layeredBuild (WellFormed layeredBuild 2)
      (.chained "XrFrameEndInfoML"
        (.aggregate [.plain 1000135000, .nullStruct, .plain 5, .plain 1])) :=
    ⟨1000135000, frameEndInfoML, rfl, by decide, by decide, rfl, wellFormed_frameEndInfoML⟩
  have layer : WellFormedXr layeredBuild (WellFormed layeredBuild 2)
      (.chained "XrCompositionLayerPassthroughFB"
        (.aggregate [.plain 1000118003, .nullStruct, .plain 2, .plain 70, .plain 80])) :=
    ⟨1000118003, passthroughLayer, rfl, by decide, by decide, rfl, wellFormed_passthroughLayer⟩
  have word : ∀ bits < 256 ^ 4, WellFormedPlain 4 (.plain bits) := fun _ fits => fits
  have time : WellFormedTime (.plain 1000) := show 1000 < 2 ^ 64 by decide
  refine ⟨word 12 (by decide), chain, time, word 1 (by decide), word 1 (by decide), rfl, ?_⟩
  intro x member
  rw [List.mem_singleton.mp member]
  exact layer

/-- The round trip of the frame with a layer and a chained struct. -/
theorem deserialize_serialize_layeredFrame :
    ∃ bytes, serialize layeredBuild { timeOffset := 300 } 3 "XrFrameEndInfo" (layeredFrame 1000) =
        .complete bytes ∧
      ∀ suffix, deserialize layeredBuild plentiful { timeOffset := 100 } 3 "XrFrameEndInfo"
          .unset (bytes ++ suffix) = .done (layeredFrame 800) suffix :=
  deserialize_serialize (fun _ => rfl) wellFormed_layeredFrame { timeOffset := 300 } 100 3
    (Nat.le_refl 3)

end XrTransport.Serialization
