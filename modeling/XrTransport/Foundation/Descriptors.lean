import Mathlib.Data.List.Basic
import Mathlib.Data.List.Count

/-!
# Tables of descriptors

A table maps small numbers to open resources. Opening takes the smallest number that is free, so
that a number that was closed comes back for something else. Closing frees one number and leaves the
others alone. How often a resource is open is counted by `refs`.
-/
namespace XrTransport

universe u

/-- The open descriptors, by their numbers. -/
structure Descriptors (ρ : Type u) where
  /-- What each number stands for. -/
  entries : List (Option ρ)
  deriving DecidableEq

namespace Descriptors

variable {ρ : Type u} (table : Descriptors ρ)

/-- What a number stands for. -/
def get (fd : Nat) : Option ρ := (table.entries[fd]?).getD none

/-- The smallest free number. -/
def lowest : Nat := table.entries.findIdx Option.isNone

/-- Enter a resource at the smallest free number. -/
def opened (resource : ρ) : Descriptors ρ :=
  if table.lowest < table.entries.length then
    ⟨table.entries.set table.lowest (some resource)⟩
  else ⟨table.entries ++ [some resource]⟩

/-- Free a number. -/
def closed (fd : Nat) : Descriptors ρ := ⟨table.entries.set fd none⟩

/-- How many numbers stand for a resource. -/
def refs [DecidableEq ρ] (resource : ρ) : Nat := table.entries.count (some resource)

variable {table}

/-- The smallest free number is free. -/
theorem get_lowest (table : Descriptors ρ) : table.get table.lowest = none := by
  rw [get, lowest]
  by_cases free : table.entries.findIdx Option.isNone < table.entries.length
  · have none := List.findIdx_getElem (w := free)
    rw [List.getElem?_eq_getElem free, Option.getD_some]
    exact Option.isNone_iff_eq_none.mp none
  · rw [List.getElem?_eq_none (Nat.le_of_not_lt free), Option.getD_none]

/-- The smallest free number is at most one behind the last. -/
theorem lowest_le : table.lowest ≤ table.entries.length :=
  List.findIdx_le_length

/-- The new number stands for the resource, and the others stand for what they stood for. -/
theorem get_opened (resource : ρ) (fd : Nat) :
    (table.opened resource).get fd = if fd = table.lowest then some resource else table.get fd := by
  rw [opened]
  by_cases inside : table.lowest < table.entries.length
  · rw [if_pos inside, get, get, List.getElem?_set]
    by_cases same : table.lowest = fd
    · rw [if_pos same, if_pos same.symm, if_pos inside, Option.getD_some]
    · rw [if_neg same, if_neg (Ne.symm same)]
  · rw [if_neg inside, get, get]
    have last : table.lowest = table.entries.length :=
      Nat.le_antisymm lowest_le (Nat.le_of_not_lt inside)
    rw [last]
    by_cases same : fd = table.entries.length
    · rw [if_pos same, same, List.getElem?_concat_length, Option.getD_some]
    · rw [if_neg same, List.getElem?_append]
      split
      · rfl
      · rw [List.getElem?_eq_none (by rw [List.length_singleton]; omega),
          List.getElem?_eq_none (by omega)]

/-- The number that was freed is free, and the others stand for what they stood for. -/
theorem get_closed (freed fd : Nat) :
    (table.closed freed).get fd = if fd = freed then none else table.get fd := by
  rw [closed, get, get, List.getElem?_set]
  by_cases same : freed = fd
  · rw [if_pos same, if_pos same.symm]
    split
    · rfl
    · rfl
  · rw [if_neg same, if_neg (Ne.symm same)]

/-- Replacing an entry replaces what is counted. -/
theorem count_set {α : Type u} [BEq α] [LawfulBEq α] [DecidableEq α] (counted after : α) :
    ∀ {entries : List α} {place : Nat} {before : α}, entries[place]? = some before →
      (entries.set place after).count counted + (if before = counted then 1 else 0) =
        entries.count counted + if after = counted then 1 else 0 := by
  intro entries
  induction entries with
  | nil =>
    intro place before found
    exact absurd found (by simp)
  | cons first rest ih =>
    intro place before found
    cases place with
    | zero =>
      obtain rfl := Option.some.inj found
      simp only [List.set_cons_zero, List.count_cons, beq_iff_eq]
      omega
    | succ place =>
      have further := ih (List.getElem?_cons_succ ▸ found)
      rw [List.set_cons_succ, List.count_cons, List.count_cons]
      omega

variable [DecidableEq ρ]

/-- One more number stands for the resource. -/
theorem refs_opened (table : Descriptors ρ) (resource counted : ρ) :
    (table.opened resource).refs counted =
      table.refs counted + if resource = counted then 1 else 0 := by
  rw [opened]
  by_cases inside : table.lowest < table.entries.length
  · have free : table.entries[table.lowest]? = some none := by
      have none := get_lowest table
      rw [get, List.getElem?_eq_getElem inside, Option.getD_some] at none
      rw [List.getElem?_eq_getElem inside, none]
    have replaced := count_set (some counted) (some resource) free
    simp only [reduceCtorEq, if_false, Nat.add_zero, Option.some_inj] at replaced
    rw [if_pos inside]
    exact replaced
  · rw [if_neg inside, refs, refs, List.count_append, List.count_singleton]
    simp only [beq_iff_eq, Option.some_inj]

/-- One number less stands for what was freed. -/
theorem refs_closed {fd : Nat} {resource : ρ} (standing : table.get fd = some resource)
    (counted : ρ) :
    (table.closed fd).refs counted + (if resource = counted then 1 else 0) =
      table.refs counted := by
  have entry : table.entries[fd]? = some (some resource) := by
    rw [get] at standing
    cases found : table.entries[fd]? with
    | none =>
      rw [found] at standing
      exact absurd standing (Option.some_ne_none _).symm
    | some entry =>
      rw [found, Option.getD_some] at standing
      rw [standing]
  have replaced := count_set (some counted) none entry
  simp only [reduceCtorEq, if_false, Nat.add_zero, Option.some_inj] at replaced
  exact replaced

end Descriptors

end XrTransport
