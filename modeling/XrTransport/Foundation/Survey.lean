import XrTransport.Foundation.Stream

/-!
# Surveys of an input

A surveyor walks over an input without reading values from it and lists what reading it would
demand of the reader's surroundings, up to the first demand that is not met. A reader mirrors a
surveyor when it runs into undefined behaviour exactly where a demand is not met.
-/
namespace XrTransport

variable {ε α β δ : Type}

/-- A walk over an input: the demands met with, and the unread rest unless the walk ended early. -/
def Surveyor (δ : Type) := List UInt8 → List δ × Option (List UInt8)

namespace Surveyor

/-- Demand nothing, read nothing. -/
def nothing : Surveyor δ := fun bytes => ([], some bytes)

/-- End the walk. -/
def refuse : Surveyor δ := fun _ => ([], none)

/-- Make a demand; the walk goes on only when it is met. -/
def demand (met : δ → Bool) (d : δ) : Surveyor δ := fun bytes =>
  ([d], if met d then some bytes else none)

/-- One walk after another. -/
def andThen (first second : Surveyor δ) : Surveyor δ := fun bytes =>
  match first bytes with
  | (demands, none) => (demands, none)
  | (demands, some rest) => (demands ++ (second rest).1, (second rest).2)

/-- Walk over a word and go on with it. -/
def word (size : Nat) (next : Nat → Surveyor δ) : Surveyor δ := fun bytes =>
  if size ≤ bytes.length then next (ofBytes (bytes.take size)) (bytes.drop size) else ([], none)

end Surveyor

/-- A reader's end agrees with a walk: it returned or raised an error and all demands are met, or
its behaviour is undefined and one is not, and where it returned it has read what was walked over.
-/
def Agrees (met : δ → Bool) (walk : List δ × Option (List UInt8)) : Outcome ε α → Prop
  | .done _ rest => (∀ d ∈ walk.1, met d) ∧ walk.2 = some rest
  | .stopped .fault => (∃ d ∈ walk.1, ¬met d) ∧ walk.2 = none
  | .stopped _ => (∀ d ∈ walk.1, met d) ∧ walk.2 = none

/-- On every input, the reader's end agrees with the walk over it. -/
def Mirrors (met : δ → Bool) (reader : Decoder ε α) (surveyor : Surveyor δ) : Prop :=
  ∀ bytes, Agrees met (surveyor bytes) (reader bytes)

namespace Agrees

variable {met : δ → Bool} {walk : List δ × Option (List UInt8)}

/-- Where the reader stopped early, so did the walk. -/
theorem left_none {reason : Stop ε} (agrees : Agrees met walk (.stopped reason : Outcome ε α)) :
    walk.2 = none := by
  cases reason with
  | fault => exact agrees.2
  | raised error => exact agrees.2
  | exhausted => exact agrees.2

/-- How a reader stopped does not depend on what it would have returned. -/
theorem retype {reason : Stop ε} (agrees : Agrees met walk (.stopped reason : Outcome ε α)) :
    Agrees met walk (.stopped reason : Outcome ε β) := by
  cases reason with
  | fault => exact agrees
  | raised error => exact agrees
  | exhausted => exact agrees

/-- Demands that are met may precede. -/
theorem prepend {outcome : Outcome ε α} {demands : List δ} (holds : ∀ d ∈ demands, met d)
    (agrees : Agrees met walk outcome) : Agrees met (demands ++ walk.1, walk.2) outcome := by
  have all : (∀ d ∈ walk.1, met d) → ∀ d ∈ demands ++ walk.1, met d := by
    intro after d member
    obtain before | later := List.mem_append.mp member
    · exact holds d before
    · exact after d later
  cases outcome with
  | done value rest => exact ⟨all agrees.1, agrees.2⟩
  | stopped reason =>
    cases reason with
    | fault =>
      obtain ⟨⟨d, member, fails⟩, ended⟩ := agrees
      exact ⟨⟨d, List.mem_append_right _ member, fails⟩, ended⟩
    | raised error => exact ⟨all agrees.1, agrees.2⟩
    | exhausted => exact ⟨all agrees.1, agrees.2⟩

end Agrees

namespace Mirrors

variable {met : δ → Bool}

/-- Returning demands nothing. -/
protected theorem pure (value : α) :
    Mirrors met (Pure.pure value : Decoder ε α) .nothing := fun bytes =>
  ⟨by simp [Surveyor.nothing], rfl⟩

/-- Raising an error demands nothing and ends the walk. -/
protected theorem raise (error : ε) : Mirrors met (.raise error : Decoder ε α) .refuse :=
  fun _ => ⟨by simp [Surveyor.refuse], rfl⟩

/-- Running out of fuel demands nothing and ends the walk. -/
protected theorem exhausted : Mirrors met (.stop .exhausted : Decoder ε α) .refuse :=
  fun _ => ⟨by simp [Surveyor.refuse], rfl⟩

/-- A reader behind a demand that is met. -/
protected theorem afterMet {reader : Decoder ε α} {next : Surveyor δ} {d : δ} (holds : met d)
    (mirrors : Mirrors met reader next) :
    Mirrors met reader ((Surveyor.demand met d).andThen next) := by
  intro bytes
  have same : ((Surveyor.demand met d).andThen next) bytes =
      ([d] ++ (next bytes).1, (next bytes).2) := by
    simp [Surveyor.andThen, Surveyor.demand, holds]
  rw [same]
  exact (mirrors bytes).prepend (by simpa using holds)

/-- Undefined behaviour where a demand is not met. -/
protected theorem fault {d : δ} (next : Surveyor δ) (fails : met d = false) :
    Mirrors met (.stop .fault : Decoder ε α) ((Surveyor.demand met d).andThen next) := by
  intro bytes
  have same : ((Surveyor.demand met d).andThen next) bytes = ([d], none) := by
    simp [Surveyor.andThen, Surveyor.demand, fails]
  rw [same]
  exact ⟨⟨d, by simp, by simp [fails]⟩, rfl⟩

/-- Returning where a last demand is met. -/
protected theorem demandMet {d : δ} (value : α) (holds : met d) :
    Mirrors met (Pure.pure value : Decoder ε α) (Surveyor.demand met d) := by
  intro bytes
  simp only [Surveyor.demand, holds, if_true]
  exact ⟨by simpa using holds, rfl⟩

/-- Undefined behaviour where a last demand is not met. -/
protected theorem demandFault {d : δ} (fails : met d = false) :
    Mirrors met (.stop .fault : Decoder ε α) (Surveyor.demand met d) := by
  intro bytes
  simp only [Surveyor.demand, fails, Bool.false_eq_true, if_false]
  exact ⟨⟨d, by simp, by simp [fails]⟩, rfl⟩

/-- Readers in sequence, the second of which walks alike for every value. -/
protected theorem bind {first : Decoder ε α} {next : α → Decoder ε β} {before after : Surveyor δ}
    (head : Mirrors met first before) (tail : ∀ value, Mirrors met (next value) after) :
    Mirrors met (first >>= next) (before.andThen after) := by
  intro bytes
  have headAgrees := head bytes
  rw [Decoder.bind_apply]
  cases walked : before bytes with
  | mk demands left =>
    rw [walked] at headAgrees
    cases ended : first bytes with
    | stopped reason =>
      rw [ended] at headAgrees
      obtain rfl : left = none := headAgrees.left_none
      simp only [Surveyor.andThen, walked]
      exact headAgrees.retype
    | done value rest =>
      rw [ended] at headAgrees
      obtain ⟨holds, rfl⟩ := headAgrees
      simp only [Surveyor.andThen, walked]
      exact (tail value rest).prepend holds

/-- Applying a function to the result changes nothing. -/
protected theorem map {reader : Decoder ε α} {surveyor : Surveyor δ} (f : α → β)
    (mirrors : Mirrors met reader surveyor) : Mirrors met (f <$> reader) surveyor := by
  intro bytes
  have original := mirrors bytes
  rw [Decoder.map_apply]
  cases ended : reader bytes with
  | done value rest =>
    rw [ended] at original
    exact original
  | stopped reason =>
    rw [ended] at original
    exact original.retype

/-- A word and what follows it. -/
protected theorem word {size : Nat} {next : Nat → Decoder ε α} {surveyor : Nat → Surveyor δ}
    (short : ε) (tail : ∀ value, Mirrors met (next value) (surveyor value)) :
    Mirrors met (Decoder.word size short >>= next) (.word size surveyor) := by
  intro bytes
  rw [Decoder.bind_apply, Decoder.word, Surveyor.word]
  by_cases long : size ≤ bytes.length
  · simp only [long, if_true]
    exact tail _ _
  · simp only [long, if_false]
    exact ⟨by simp, rfl⟩

/-- A reader that mirrors a surveyor is safe on an input exactly when all demands are met. -/
theorem safe_iff {reader : Decoder ε α} {surveyor : Surveyor δ}
    (mirrors : Mirrors met reader surveyor) (bytes : List UInt8) :
    reader bytes ≠ .stopped .fault ↔ ∀ d ∈ (surveyor bytes).1, met d := by
  have agrees := mirrors bytes
  cases ended : reader bytes with
  | done value rest =>
    rw [ended] at agrees
    simpa using agrees.1
  | stopped reason =>
    rw [ended] at agrees
    cases reason with
    | fault =>
      obtain ⟨⟨d, member, fails⟩, _⟩ := agrees
      simp only [ne_eq, not_true_eq_false, false_iff]
      exact fun all => fails (all d member)
    | raised error => simpa using agrees.1
    | exhausted => simpa using agrees.1

end Mirrors

end XrTransport
