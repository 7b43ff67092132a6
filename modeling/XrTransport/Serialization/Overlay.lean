import XrTransport.Serialization.Deserializer

/-!
# Values laid over a destination

An arriving value is laid over the place it is read into: fresh storage takes it as it is, and an
existing value keeps its pointers and takes the contents. A null pointer that arrives where a
pointer is refuses the whole.
-/
namespace XrTransport.Serialization

mutual

/-- The destination after an arriving value has been laid over it. -/
def Value.overlay : Value → Value → Option Value
  | .unset, arriving => some arriving
  | .plain _, .plain bits => some (.plain bits)
  | .aggregate places, .aggregate parts => (overlayAll places parts).map .aggregate
  | .null, .null => some .null
  | .null, .block [] => some .null
  | .nullStruct, .nullStruct => some .nullStruct
  | .block places, .block elements => (overlayAll places elements).map .block
  | .chained name place, .chained _ object => (place.overlay object).map (.chained name)
  | .chainedArray name places, .chainedArray _ elements =>
    (overlayAll places elements).map (.chainedArray name)
  | _, _ => none

/-- Part by part. -/
def overlayAll : List Value → List Value → Option (List Value)
  | [], [] => some []
  | place :: places, value :: values =>
    (place.overlay value).bind fun head => (overlayAll places values).map (head :: ·)
  | _, _ => none

end

mutual

/-- The destination has the shape of the arriving value, but for a pointer that may be there where
a null pointer arrives. -/
def Value.Fits : Value → Value → Prop
  | .plain _, .plain _ => True
  | .aggregate places, .aggregate parts => FitsAll places parts
  | .null, .null => True
  | .null, .block [] => True
  | .nullStruct, .nullStruct => True
  | .block _, .null => True
  | .block places, .block elements => FitsAll places elements
  | .chained name place, .chained name' object => name = name' ∧ place.Fits object
  | .chainedArray name places, .chainedArray name' elements =>
    name = name' ∧ FitsAll places elements
  | _, _ => False

/-- Part by part. -/
def FitsAll : List Value → List Value → Prop
  | [], [] => True
  | place :: places, value :: values => place.Fits value ∧ FitsAll places values
  | _, _ => False

end

/-- The place a value is read into: fresh storage, or in place one of the right shape. -/
def DeserializeContext.Accepts (ctx : DeserializeContext) (place arriving : Value) : Prop :=
  if ctx.inPlace then place.Fits arriving else place = .unset

/-- The places the parts of a value are read into. -/
def DeserializeContext.AcceptsAll (ctx : DeserializeContext) (places arriving : List Value) :
    Prop :=
  if ctx.inPlace then FitsAll places arriving else places = List.replicate arriving.length .unset

/-- Fresh storage takes every part as it is. -/
theorem overlayAll_unset (values : List Value) :
    overlayAll (List.replicate values.length .unset) values = some values := by
  induction values with
  | nil => rfl
  | cons value values ih => simp [List.replicate_succ, overlayAll, Value.overlay, ih]

namespace DeserializeContext

variable {ctx : DeserializeContext}

/-- A place is accepted because it is fresh or because it fits. -/
theorem Accepts.mode {place arriving : Value} (accepted : ctx.Accepts place arriving) :
    (ctx.inPlace = false ∧ place = .unset) ∨ (ctx.inPlace = true ∧ place.Fits arriving) := by
  unfold Accepts at accepted
  cases mode : ctx.inPlace with
  | false => exact .inl ⟨rfl, by simpa [mode] using accepted⟩
  | true => exact .inr ⟨rfl, by simpa [mode] using accepted⟩

/-- Places are accepted because they are fresh or because they fit. -/
theorem AcceptsAll.mode {places arriving : List Value}
    (accepted : ctx.AcceptsAll places arriving) :
    (ctx.inPlace = false ∧ places = List.replicate arriving.length .unset) ∨
      (ctx.inPlace = true ∧ FitsAll places arriving) := by
  unfold AcceptsAll at accepted
  cases mode : ctx.inPlace with
  | false => exact .inl ⟨rfl, by simpa [mode] using accepted⟩
  | true => exact .inr ⟨rfl, by simpa [mode] using accepted⟩

/-- Fresh storage is accepted out of place. -/
theorem accepts_unset (mode : ctx.inPlace = false) (arriving : Value) :
    ctx.Accepts .unset arriving := by
  simp [Accepts, mode]

/-- Fresh storage for every part is accepted out of place. -/
theorem acceptsAll_unset (mode : ctx.inPlace = false) (arriving : List Value) :
    ctx.AcceptsAll (List.replicate arriving.length .unset) arriving := by
  simp [AcceptsAll, mode]

/-- A place that fits is accepted in place. -/
theorem accepts_fits (mode : ctx.inPlace = true) {place arriving : Value}
    (fits : place.Fits arriving) : ctx.Accepts place arriving := by
  simpa [Accepts, mode] using fits

/-- Places that fit are accepted in place. -/
theorem acceptsAll_fits (mode : ctx.inPlace = true) {places arriving : List Value}
    (fits : FitsAll places arriving) : ctx.AcceptsAll places arriving := by
  simpa [AcceptsAll, mode] using fits

/-- A list of accepted places is a first accepted place and the rest. -/
theorem AcceptsAll.cons {places values : List Value} {value : Value}
    (accepted : ctx.AcceptsAll places (value :: values)) :
    ∃ place rest, places = place :: rest ∧ ctx.Accepts place value ∧
      ctx.AcceptsAll rest values := by
  obtain ⟨fresh, rfl⟩ | ⟨existing, fits⟩ := accepted.mode
  · exact ⟨.unset, _, rfl, accepts_unset fresh value, acceptsAll_unset fresh values⟩
  · cases places with
    | nil => exact fits.elim
    | cons place rest =>
      exact ⟨place, rest, rfl, accepts_fits existing fits.1, acceptsAll_fits existing fits.2⟩

/-- No values need no places. -/
theorem AcceptsAll.nil {places : List Value} (accepted : ctx.AcceptsAll places []) :
    places = [] := by
  obtain ⟨_, rfl⟩ | ⟨_, fits⟩ := accepted.mode
  · rfl
  · cases places with
    | nil => rfl
    | cons place rest => exact fits.elim

/-- The parts of an accepted object are accepted, and laying over the object is laying over its
parts. -/
theorem Accepts.parts {place : Value} {values : List Value} {count : Nat}
    (accepted : ctx.Accepts place (.aggregate values)) (sized : values.length = count) :
    ctx.AcceptsAll (place.places count) values ∧
      place.overlay (.aggregate values) =
        (overlayAll (place.places count) values).map .aggregate := by
  subst sized
  obtain ⟨fresh, rfl⟩ | ⟨existing, fits⟩ := accepted.mode
  · refine ⟨acceptsAll_unset fresh values, ?_⟩
    simp [Value.overlay, overlayAll_unset]
  · cases place with
    | aggregate parts =>
      refine ⟨acceptsAll_fits existing fits, ?_⟩
      simp [Value.overlay]
    | _ => exact fits.elim

end DeserializeContext

end XrTransport.Serialization
