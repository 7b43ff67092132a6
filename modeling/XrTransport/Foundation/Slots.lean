import Mathlib.Data.List.Forall2

/-!
# Filling an array

A loop puts the items of a list into the slots of an array, one after the other. Every slot takes
its item in its own way, which may be undefined; the slots behind the last item stay as they are.
-/
namespace XrTransport.Slots

variable {Item Slot : Type}

/-- The loop from a position on. It is undefined where there is no slot, or where the slot cannot
take its item. -/
def fillFrom (fill : Slot → Item → Option Slot) :
    List Item → Nat → List Slot → Option (List Slot)
  | [], _, slots => some slots
  | item :: rest, position, slots => do
    let slot ← slots[position]?
    let filled ← fill slot item
    fillFrom fill rest (position + 1) (slots.set position filled)

/-- The first slots hold the items, each once and in their order; the others are as before. -/
structure Filled (Holds : Slot → Item → Prop) (items : List Item) (before after : List Slot) :
    Prop where
  /-- As many slots as there are items hold them. -/
  held : List.Forall₂ Holds (after.take items.length) items
  /-- The slots behind those are untouched. -/
  kept : after.drop items.length = before.drop items.length

variable {fill : Slot → Item → Option Slot} {Holds : Slot → Item → Prop} {items : List Item}
  {position : Nat} {slots after : List Slot}

/-- The loop only changes the slots that it fills. -/
theorem fillFrom_spec (fills : ∀ slot item filled, fill slot item = some filled → Holds filled item)
    (filled : fillFrom fill items position slots = some after) :
    after.take position = slots.take position ∧
    List.Forall₂ Holds ((after.drop position).take items.length) items ∧
    after.drop (position + items.length) = slots.drop (position + items.length) := by
  induction items generalizing position slots with
  | nil =>
    obtain rfl := Option.some.inj filled
    simp
  | cons item rest ih =>
    simp only [fillFrom, Option.bind_eq_bind, Option.bind_eq_some_iff] at filled
    obtain ⟨slot, found, value, taken, filled⟩ := filled
    obtain ⟨inside, -⟩ := List.getElem?_eq_some_iff.mp found
    obtain ⟨earlier, held, later⟩ := ih filled
    have written : after.take (position + 1) = slots.take position ++ [value] := by
      rw [earlier, List.take_succ_eq_append_getElem (by rwa [List.length_set]),
        List.take_set_of_le (Nat.le_refl position), List.getElem_set_self]
    have before : after.take position = slots.take position := by
      have shorter := congrArg (List.take position) written
      rwa [List.take_take, Nat.min_eq_left (Nat.le_succ position),
        List.take_left' (by rw [List.length_take]; omega)] at shorter
    have split : after.drop position = value :: after.drop (position + 1) := by
      have whole := List.take_append_drop (position + 1) after
      rw [written, ← before, List.append_assoc] at whole
      exact List.append_cancel_left ((List.take_append_drop position after).trans whole.symm)
    refine ⟨before, ?_, ?_⟩
    · rw [split, List.length_cons, List.take_succ_cons]
      exact .cons (fills slot item value taken) held
    · rw [List.length_cons, Nat.add_comm rest.length, ← Nat.add_assoc, later,
        List.drop_set_of_lt (by omega)]

/-- An array that is long enough takes the items if every one of them can be taken. -/
theorem fillFrom_isSome {Takes : Item → Prop}
    (takes : ∀ slot item, (fill slot item).isSome ↔ Takes item)
    (room : position + items.length ≤ slots.length) :
    (fillFrom fill items position slots).isSome ↔ ∀ item ∈ items, Takes item := by
  induction items generalizing position slots with
  | nil => simp [fillFrom]
  | cons item rest ih =>
    rw [List.length_cons] at room
    have found : slots[position]? = some slots[position] := List.getElem?_eq_getElem (by omega)
    rw [List.forall_mem_cons, ← takes slots[position] item, fillFrom, found, Option.bind_eq_bind,
      Option.bind_some]
    cases taken : fill slots[position] item with
    | none => simp
    | some value =>
      have next : position + 1 + rest.length ≤ (slots.set position value).length := by
        rw [List.length_set]
        omega
      simpa using ih next

/-- A whole array, filled from its beginning. -/
theorem filled_of_fillFrom
    (fills : ∀ slot item filled, fill slot item = some filled → Holds filled item)
    (filled : fillFrom fill items 0 slots = some after) : Filled Holds items slots after := by
  obtain ⟨-, held, kept⟩ := fillFrom_spec fills filled
  exact ⟨by simpa using held, by simpa using kept⟩

end XrTransport.Slots
