import Mathlib.Algebra.Group.Nat.Defs
import Mathlib.Data.List.Nodup
import Mathlib.Logic.Function.Basic
import Mathlib.Tactic.Common

/-!
# Memory used in a circle

A block of memory holds the contents of consecutive positions; behind its last address it starts
over with the first. Positions grow without bound, and those within one turn have addresses of
their own. Bytes that are stored behind others within one turn therefore leave those alone.
-/
namespace XrTransport.Circular

variable {Byte : Type}

/-- The address of a position. -/
def slot (base size position : Nat) : Nat := base + position % size

/-- The addresses of consecutive positions. -/
def slots (base size position count : Nat) : List Nat :=
  (List.range' position count).map (slot base size)

/-- Stores bytes at addresses, one after the other. -/
def store (memory : Nat → Byte) : List Nat → List Byte → Nat → Byte
  | address :: addresses, byte :: bytes =>
    store (Function.update memory address byte) addresses bytes
  | _, _ => memory

/-- The positions from one on hold these bytes. -/
def Holds (memory : Nat → Byte) (base size position : Nat) (bytes : List Byte) : Prop :=
  (slots base size position bytes.length).map memory = bytes

variable {memory : Nat → Byte} {base size position count : Nat} {bytes : List Byte}

/-- Every position has an address in the block. -/
theorem slot_bounds (base : Nat) (nonempty : 0 < size) (position : Nat) :
    base ≤ slot base size position ∧ slot base size position < base + size := by
  have inside := Nat.mod_lt position nonempty
  unfold slot
  omega

/-- Positions that differ by whole turns share their address. -/
theorem slot_congr {position position' : Nat} (same : position % size = position' % size) :
    slot base size position = slot base size position' := by
  rw [slot, slot, same]

/-- Positions within one turn have addresses of their own. -/
theorem slot_injective {first second : Nat} (order : first ≤ second)
    (near : second < first + size) (same : slot base size first = slot base size second) :
    first = second := by
  have remainders : second % size = first % size := (Nat.add_left_cancel same).symm
  have turns : (second - first) % size = 0 := Nat.sub_mod_eq_zero_of_mod_eq remainders
  have none := Nat.eq_zero_of_dvd_of_lt (Nat.dvd_of_mod_eq_zero turns) (by omega)
  omega

/-- As many addresses as positions. -/
@[simp]
theorem length_slots : (slots base size position count).length = count := by
  simp [slots]

/-- The addresses of consecutive positions. -/
theorem mem_slots {address : Nat} :
    address ∈ slots base size position count ↔
      ∃ offset < count, address = slot base size (position + offset) := by
  simp only [slots, List.mem_map, List.mem_range'_1]
  constructor
  · rintro ⟨p, ⟨low, high⟩, rfl⟩
    exact ⟨p - position, by omega, by rw [Nat.add_sub_cancel' low]⟩
  · rintro ⟨offset, inside, rfl⟩
    exact ⟨position + offset, ⟨by omega, by omega⟩, rfl⟩

/-- The address of one of them. -/
theorem getElem_slots {offset : Nat} (inside : offset < (slots base size position count).length) :
    (slots base size position count)[offset] = slot base size (position + offset) := by
  simp [slots]

/-- Consecutive positions in two parts. -/
theorem slots_append (position first second : Nat) :
    slots base size position (first + second) =
      slots base size position first ++ slots base size (position + first) second := by
  rw [slots, slots, slots, ← List.map_append, List.range'_append_1]

/-- Positions that differ by whole turns have the same addresses. -/
theorem slots_congr {position position' : Nat} (same : position % size = position' % size)
    (count : Nat) : slots base size position count = slots base size position' count := by
  apply List.ext_getElem
  · simp
  · intro offset inside inside'
    rw [getElem_slots, getElem_slots]
    apply slot_congr
    rw [Nat.add_mod, same, ← Nat.add_mod]

/-- Before the end of the block consecutive positions have consecutive addresses. -/
theorem slots_eq_range' (fits : position % size + count ≤ size) :
    slots base size position count = List.range' (base + position % size) count := by
  apply List.ext_getElem
  · simp
  · intro offset inside inside'
    rw [length_slots] at inside
    have small : position % size + offset < size := by omega
    have lower : offset < size := by omega
    rw [getElem_slots, List.getElem_range', slot, Nat.add_mod, Nat.mod_eq_of_lt lower,
      Nat.mod_eq_of_lt small]
    omega

/-- Within one turn no address repeats. -/
theorem slots_nodup (fits : count ≤ size) : (slots base size position count).Nodup := by
  apply List.Nodup.map_on
  · intro first mem second mem' same
    rw [List.mem_range'_1] at mem mem'
    rcases Nat.le_total first second with order | order
    · exact slot_injective order (by omega) same
    · exact (slot_injective order (by omega) same.symm).symm
  · exact List.nodup_range'

/-- Storing changes nothing at other addresses. -/
theorem store_of_not_mem {addresses : List Nat} {address : Nat} (elsewhere : address ∉ addresses)
    (bytes : List Byte) : store memory addresses bytes address = memory address := by
  induction addresses generalizing memory bytes with
  | nil => cases bytes <;> rfl
  | cons first rest ih =>
    cases bytes with
    | nil => rfl
    | cons byte bytes =>
      rw [List.mem_cons, not_or] at elsewhere
      rw [store, ih elsewhere.2, Function.update_of_ne elsewhere.1]

/-- Storing in two parts. -/
theorem store_append {addresses : List Nat} {bytes : List Byte}
    (same : bytes.length = addresses.length) (addresses' : List Nat) (bytes' : List Byte) :
    store memory (addresses ++ addresses') (bytes ++ bytes') =
      store (store memory addresses bytes) addresses' bytes' := by
  induction addresses generalizing memory bytes with
  | nil =>
    obtain rfl := List.eq_nil_of_length_eq_zero same
    rfl
  | cons first rest ih =>
    cases bytes with
    | nil => exact absurd same (by simp)
    | cons byte bytes => exact ih (Nat.succ.inj same)

/-- What was stored is found where it was stored. -/
theorem map_store {addresses : List Nat} (apart : addresses.Nodup) {bytes : List Byte}
    (same : bytes.length = addresses.length) :
    addresses.map (store memory addresses bytes) = bytes := by
  induction addresses generalizing memory bytes with
  | nil => exact (List.eq_nil_of_length_eq_zero same).symm
  | cons first rest ih =>
    cases bytes with
    | nil => exact absurd same (by simp)
    | cons byte bytes =>
      rw [List.nodup_cons] at apart
      have here : store (Function.update memory first byte) rest bytes first = byte := by
        rw [store_of_not_mem apart.1, Function.update_self]
      have further : rest.map (store (Function.update memory first byte) rest bytes) = bytes :=
        ih apart.2 (Nat.succ.inj same)
      simp only [List.map_cons, store, here, further]

/-- Bytes are held one by one. -/
theorem holds_iff : Holds memory base size position bytes ↔
    ∀ offset (inside : offset < bytes.length),
      memory (slot base size (position + offset)) = bytes[offset] := by
  constructor
  · intro held offset inside
    have entry := List.getElem_of_eq held (i := offset) (by simpa using inside)
    rwa [List.getElem_map, getElem_slots] at entry
  · intro each
    apply List.ext_getElem
    · simp
    · intro offset inside inside'
      rw [List.getElem_map, getElem_slots]
      exact each offset inside'

/-- Nothing is held anywhere. -/
theorem holds_nil : Holds memory base size position [] := rfl

/-- What is held behind other bytes. -/
theorem holds_append {front back : List Byte} :
    Holds memory base size position (front ++ back) ↔
      Holds memory base size position front ∧
        Holds memory base size (position + front.length) back := by
  unfold Holds
  rw [List.length_append, slots_append, List.map_append]
  constructor
  · intro held
    exact List.append_inj held (by simp)
  · rintro ⟨left, right⟩
    rw [left, right]

/-- Held bytes are kept when the memory stays the same at their addresses. -/
theorem Holds.mono {memory' : Nat → Byte} (held : Holds memory base size position bytes)
    (same : ∀ address ∈ slots base size position bytes.length, memory' address = memory address) :
    Holds memory' base size position bytes :=
  (List.map_congr_left same).trans held

/-- Only the turn matters where bytes are held. -/
theorem Holds.congr {position' : Nat} (held : Holds memory base size position bytes)
    (same : position' % size = position % size) : Holds memory base size position' bytes := by
  rw [Holds, slots_congr same]
  exact held

/-- Bytes that are stored behind others within one turn are held behind them. -/
theorem Holds.store {front : List Byte} (held : Holds memory base size position front)
    (back : List Byte) (fits : front.length + back.length ≤ size) :
    Holds (Circular.store memory (slots base size (position + front.length) back.length) back)
      base size position (front ++ back) := by
  rw [holds_append]
  constructor
  · apply held.mono
    intro address old
    apply store_of_not_mem
    intro new
    obtain ⟨offset, inside, rfl⟩ := mem_slots.mp old
    obtain ⟨offset', inside', same⟩ := mem_slots.mp new
    have together := slot_injective (by omega) (by omega) same
    omega
  · exact map_store (slots_nodup (by omega)) (by simp)

end XrTransport.Circular
