import Mathlib.Data.List.Basic
import Mathlib.Data.List.Count
import Mathlib.Data.List.Perm.Basic

/-!
# Objects at places

A store of objects by their places; a place whose object is gone stays free. What the objects hold
is counted over all of them, so that replacing one object replaces what it holds.
-/
namespace XrTransport

universe u v

/-- Objects by their places. -/
structure Places (ω : Type u) where
  /-- The objects; those that are gone are missing. -/
  entries : List (Option ω)
  deriving DecidableEq

namespace Places

variable {ω : Type u} {ρ : Type v}

/-- The object at a place. -/
def get (places : Places ω) (place : Nat) : Option ω := (places.entries[place]?).getD none

/-- Put something at a place that has been used. -/
def put (places : Places ω) (place : Nat) (object : Option ω) : Places ω :=
  ⟨places.entries.set place object⟩

/-- Add an object at a new place. -/
def add (places : Places ω) (object : ω) : Places ω := ⟨places.entries ++ [some object]⟩

/-- What an entry holds. -/
def heldBy (holds : ω → List ρ) (entry : Option ω) : List ρ := (entry.map holds).getD []

/-- What all objects hold. -/
def held (holds : ω → List ρ) (places : Places ω) : List ρ :=
  places.entries.flatMap (heldBy holds)

/-- A place with an object is an entry. -/
theorem entry_of_get {places : Places ω} {place : Nat} {object : ω}
    (found : places.get place = some object) : places.entries[place]? = some (some object) := by
  rw [get] at found
  cases entry : places.entries[place]? with
  | none =>
    rw [entry] at found
    exact absurd found (Option.some_ne_none _).symm
  | some other =>
    rw [entry, Option.getD_some] at found
    rw [found]

/-- What was put at a place with an object is found there, and nothing else changes. -/
theorem get_put {places : Places ω} {place : Nat} {object : ω}
    (found : places.get place = some object) (after : Option ω) (other : Nat) :
    (places.put place after).get other = if other = place then after else places.get other := by
  have inside : place < places.entries.length :=
    (List.getElem?_eq_some_iff.mp (entry_of_get found)).1
  rw [put, get, get, List.getElem?_set]
  by_cases same : place = other
  · rw [if_pos same, if_pos inside, if_pos same.symm, Option.getD_some]
  · rw [if_neg same, if_neg (Ne.symm same)]

/-- What is added is found at the new place, and nothing else changes. -/
theorem get_add (places : Places ω) (object : ω) (other : Nat) :
    (places.add object).get other =
      if other = places.entries.length then some object else places.get other := by
  rw [add, get, get]
  by_cases same : other = places.entries.length
  · rw [if_pos same, same, List.getElem?_concat_length, Option.getD_some]
  · rw [if_neg same, List.getElem?_append]
    split
    · rfl
    · rw [List.getElem?_eq_none (by rw [List.length_singleton]; omega),
        List.getElem?_eq_none (by omega)]

variable [DecidableEq ρ]

/-- Replacing an entry replaces what it holds. -/
theorem count_flatMap_set (holds : ω → List ρ) (after : Option ω) (resource : ρ) :
    ∀ {entries : List (Option ω)} {place : Nat} {before : Option ω},
      entries[place]? = some before →
        ((entries.set place after).flatMap (heldBy holds)).count resource +
            (heldBy holds before).count resource =
          (entries.flatMap (heldBy holds)).count resource +
            (heldBy holds after).count resource := by
  intro entries
  induction entries with
  | nil =>
    intro place before found
    exact absurd found (by simp)
  | cons first rest ih =>
    intro place before found
    cases place with
    | zero =>
      obtain rfl := Option.some.inj found
      rw [List.set_cons_zero, List.flatMap_cons, List.flatMap_cons, List.count_append,
        List.count_append]
      omega
    | succ place =>
      have further := ih (List.getElem?_cons_succ ▸ found)
      rw [List.set_cons_succ, List.flatMap_cons, List.flatMap_cons, List.count_append,
        List.count_append]
      omega

/-- Replacing an object replaces what it holds. -/
theorem count_held_put (holds : ω → List ρ) {places : Places ω} {place : Nat} {object : ω}
    (found : places.get place = some object) (after : Option ω) (resource : ρ) :
    ((places.put place after).held holds).count resource + (holds object).count resource =
      (places.held holds).count resource + (heldBy holds after).count resource :=
  count_flatMap_set holds after resource (entry_of_get found)

/-- A new object adds what it holds. -/
theorem count_held_add (holds : ω → List ρ) (places : Places ω) (object : ω) (resource : ρ) :
    ((places.add object).held holds).count resource =
      (places.held holds).count resource + (holds object).count resource := by
  rw [add, held, held, List.flatMap_append, List.count_append, List.flatMap_cons,
    List.flatMap_nil, List.append_nil]
  rfl

end Places

end XrTransport
