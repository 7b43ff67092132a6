import XrTransport.Foundation.Transition
import Mathlib.Algebra.Group.Nat.Defs
import Mathlib.Data.Nat.Init
import Mathlib.Tactic.Common

/-!
# Bounded queues

A queue of at most so many items. A batch is pushed whole or not at all, and popped whole or not at
all. Over every run the items popped so far and those still inside are the items pushed so far.
-/
namespace XrTransport

universe u

/-- At most `capacity` items, oldest first. -/
structure BoundedFifo (Item : Type u) (capacity : Nat) where
  /-- The items inside. -/
  items : List Item
  /-- There is room for them. -/
  fits : items.length ≤ capacity

namespace BoundedFifo

variable {Item : Type u} {capacity : Nat}

/-- Nothing inside. -/
def empty : BoundedFifo Item capacity := ⟨[], Nat.zero_le capacity⟩

/-- Two queues with the same items are equal. -/
@[ext]
theorem ext {q q' : BoundedFifo Item capacity} (same : q.items = q'.items) : q = q' := by
  cases q
  cases q'
  cases same
  rfl

/-- The room that is left. -/
def free (q : BoundedFifo Item capacity) : Nat := capacity - q.items.length

/-- Adds a batch, if there is room for all of it. -/
def push (q : BoundedFifo Item capacity) (batch : List Item) : Option (BoundedFifo Item capacity) :=
  if room : q.items.length + batch.length ≤ capacity then
    some ⟨q.items ++ batch, by rwa [List.length_append]⟩
  else none

/-- Leaves out the oldest items. -/
def drop (q : BoundedFifo Item capacity) (count : Nat) : BoundedFifo Item capacity :=
  ⟨q.items.drop count, Nat.le_trans (by rw [List.length_drop]; omega) q.fits⟩

/-- The items that are not left out. -/
@[simp]
theorem drop_items (q : BoundedFifo Item capacity) (count : Nat) :
    (q.drop count).items = q.items.drop count := rfl

/-- How many batches of one size fit in a room, of so many that are wanted. -/
def fitting (room size wanted : Nat) : Nat :=
  if size = 0 then wanted else min wanted (room / size)

/-- Without wishes nothing is fitted. -/
@[simp]
theorem fitting_zero (room size : Nat) : fitting room size 0 = 0 := by
  unfold fitting
  split <;> simp

/-- A batch that fits leaves less room for the others. -/
theorem fitting_succ {room size : Nat} (fits : size ≤ room) (wanted : Nat) :
    fitting room size (wanted + 1) = fitting (room - size) size wanted + 1 := by
  unfold fitting
  by_cases none : size = 0
  · rw [if_pos none, if_pos none]
  · have positive : 0 < size := Nat.pos_of_ne_zero none
    have quotient : room / size = (room - size) / size + 1 := Nat.div_eq_sub_div positive fits
    rw [if_neg none, if_neg none, quotient]
    omega

/-- A batch that does not fit ends the attempts. -/
theorem fitting_of_lt {room size : Nat} (large : room < size) (wanted : Nat) :
    fitting room size wanted = 0 := by
  unfold fitting
  rw [if_neg (by omega), Nat.div_eq_of_lt large, Nat.min_zero]

/-- The fitted batches fit together. -/
theorem fitting_mul_le (room size wanted : Nat) : fitting room size wanted * size ≤ room := by
  unfold fitting
  split
  next none => rw [none, Nat.mul_zero]; exact Nat.zero_le room
  next =>
    exact Nat.le_trans (Nat.mul_le_mul_right size (Nat.min_le_right _ _)) (Nat.div_mul_le_self _ _)

/-- What the two sides of a queue do. -/
inductive Event (Item : Type u)
  /-- A batch goes in. -/
  | pushed (batch : List Item)
  /-- A batch comes out. -/
  | popped (batch : List Item)

/-- The queue as a system: what comes out are the oldest items. -/
def system (Item : Type u) [DecidableEq Item] (capacity : Nat) :
    System (BoundedFifo Item capacity) (Event Item) where
  init := empty
  step q
    | .pushed batch => q.push batch
    | .popped batch => if batch <+: q.items then some (q.drop batch.length) else none

/-- All that went in. -/
def Event.allPushed : List (Event Item) → List Item
  | [] => []
  | .pushed batch :: rest => batch ++ allPushed rest
  | .popped _ :: rest => allPushed rest

/-- All that came out. -/
def Event.allPopped : List (Event Item) → List Item
  | [] => []
  | .pushed _ :: rest => allPopped rest
  | .popped batch :: rest => batch ++ allPopped rest

/-- A batch goes in when there is room for it, and is then the newest part. -/
theorem push_eq_some {q q' : BoundedFifo Item capacity} {batch : List Item} :
    q.push batch = some q' ↔
      q.items.length + batch.length ≤ capacity ∧ q'.items = q.items ++ batch := by
  unfold push
  split
  next room =>
    simp only [Option.some.injEq, room, true_and]
    exact ⟨fun same => same ▸ rfl, fun same => ext same.symm⟩
  next full => simp [full]

/-- A batch that fits is the newest part afterwards. -/
theorem items_push_getD {q : BoundedFifo Item capacity} {batch : List Item}
    (room : batch.length ≤ q.free) : ((q.push batch).getD q).items = q.items ++ batch := by
  have fits := q.fits
  unfold free at room
  rw [push, dif_pos (by omega), Option.getD_some]

/-- A batch comes out when it is the oldest part. -/
theorem step_popped [DecidableEq Item] {q q' : BoundedFifo Item capacity} {batch : List Item} :
    (system Item capacity).step q (.popped batch) = some q' ↔ q.items = batch ++ q'.items := by
  change (if batch <+: q.items then some (q.drop batch.length) else none) = some q' ↔ _
  constructor
  · intro taken
    split at taken
    next oldest =>
      obtain ⟨left, whole⟩ := oldest
      cases taken
      rw [drop_items, ← whole, List.drop_left]
    next => cases taken
  · intro whole
    rw [if_pos ⟨q'.items, whole.symm⟩]
    apply congrArg some
    apply ext
    rw [drop_items, whole, List.drop_left]

/-- Over every run nothing is lost, repeated or reordered. -/
theorem run_conserves [DecidableEq Item] {q q' : BoundedFifo Item capacity}
    {events : List (Event Item)} (ran : (system Item capacity).run q events = some q') :
    q.items ++ Event.allPushed events = Event.allPopped events ++ q'.items := by
  induction events generalizing q with
  | nil =>
    obtain rfl := Option.some.inj ran
    simp [Event.allPushed, Event.allPopped]
  | cons event rest ih =>
    obtain ⟨middle, taken, ran⟩ := Option.bind_eq_some_iff.mp ran
    have later := ih ran
    cases event with
    | pushed batch =>
      have grown := (push_eq_some.mp taken).2
      rw [grown, List.append_assoc] at later
      exact later
    | popped batch =>
      have whole := step_popped.mp taken
      rw [whole, Event.allPushed, Event.allPopped, List.append_assoc, later, List.append_assoc]

end BoundedFifo

end XrTransport
