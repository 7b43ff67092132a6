import Mathlib.Data.List.Basic
import Mathlib.Logic.Function.Basic

/-!
# Linked lists in memory

Cells with a content and the address of the next cell, or zero. A list of addresses and contents is
linked in a memory when following the pointers visits exactly these cells; a pointer to an address
where there is no cell links to no list.
-/
namespace XrTransport

/-- A cell of a linked list. -/
structure Cell (β : Type) where
  /-- What the cell holds. -/
  content : β
  /-- The address of the next one; zero at the end. -/
  next : Nat
deriving DecidableEq, Repr

/-- The cells at their addresses. -/
abbrev Memory (β : Type) := Nat → Option (Cell β)

namespace Memory

variable {β : Type}

/-- The address of the first node. -/
def headAddress : List (Nat × β) → Nat
  | [] => 0
  | (address, _) :: _ => address

/-- New cells for the nodes of a list. -/
def layOut (memory : Memory β) : List (Nat × β) → Memory β
  | [] => memory
  | (address, content) :: rest =>
    Function.update (layOut memory rest) address (some ⟨content, headAddress rest⟩)

/-- Following the pointers from an address visits these nodes. -/
def Linked (memory : Memory β) : Nat → List (Nat × β) → Prop
  | start, [] => start = 0
  | start, (address, content) :: rest =>
    start = address ∧ address ≠ 0 ∧
      ∃ next, memory address = some ⟨content, next⟩ ∧ Linked memory next rest

/-- Frees the cells from an address on, the last one first. -/
def free (memory : Memory β) : Nat → Nat → Option (Memory β)
  | 0, start => if start = 0 then some memory else none
  | fuel + 1, start =>
    if start = 0 then some memory
    else
      match memory start with
      | none => none
      | some cell =>
        (free memory fuel cell.next).map fun rest => Function.update rest start none

/-- The memory without the cells of a list. -/
def without (memory : Memory β) (nodes : List (Nat × β)) : Memory β :=
  fun address => if address ∈ nodes.map Prod.fst then none else memory address

/-- Following the pointers from one address leads to another one. -/
inductive Leads (memory : Memory β) : Nat → Nat → Prop where
  /-- It is that address. -/
  | here (address : Nat) : Leads memory address address
  /-- The next cell leads there. -/
  | next {start address : Nat} {cell : Cell β} (nonnull : start ≠ 0)
    (there : memory start = some cell) (rest : Leads memory cell.next address) :
    Leads memory start address

variable {memory other : Memory β} {nodes : List (Nat × β)}

/-- A list is linked from its first node. -/
theorem Linked.start {start : Nat} (linked : Linked memory start nodes) :
    start = headAddress nodes := by
  cases nodes with
  | nil => exact linked
  | cons node rest => exact linked.1

/-- Only the cells of a list matter. -/
theorem Linked.congr {start : Nat} (linked : Linked memory start nodes)
    (same : ∀ node ∈ nodes, other node.1 = memory node.1) : Linked other start nodes := by
  induction nodes generalizing start with
  | nil => exact linked
  | cons node rest ih =>
    obtain ⟨here, nonnull, next, there, linked⟩ := linked
    have kept : other node.1 = memory node.1 := same node (by simp)
    exact ⟨here, nonnull, next, kept.trans there, ih linked fun other member =>
      same other (by simp [member])⟩

/-- New cells at different addresses are linked. -/
theorem linked_layOut (apart : (nodes.map Prod.fst).Nodup) (nonnull : ∀ node ∈ nodes, node.1 ≠ 0) :
    Linked (layOut memory nodes) (headAddress nodes) nodes := by
  induction nodes with
  | nil => rfl
  | cons node rest ih =>
    obtain ⟨fresh, apart⟩ := List.nodup_cons.mp apart
    have linked := ih apart fun other member => nonnull other (by simp [member])
    refine ⟨rfl, nonnull node (by simp), headAddress rest, by simp [layOut], ?_⟩
    refine linked.congr fun other member => ?_
    have differs : other.1 ≠ node.1 := by
      rintro same
      exact fresh (same ▸ List.mem_map_of_mem member)
    rw [layOut, Function.update_of_ne differs]

/-- To free a linked list is to remove its cells. -/
theorem free_eq {fuel start : Nat} (linked : Linked memory start nodes)
    (enough : nodes.length ≤ fuel) : free memory fuel start = some (memory.without nodes) := by
  induction nodes generalizing fuel start with
  | nil =>
    have all : memory.without ([] : List (Nat × β)) = memory := by
      funext address
      simp [without]
    obtain rfl : start = 0 := linked
    cases fuel <;> simp [free, all]
  | cons node rest ih =>
    obtain ⟨rfl, nonnull, next, there, linked⟩ := linked
    cases fuel with
    | zero => simp at enough
    | succ fuel =>
      have freed := ih linked (Nat.le_of_succ_le_succ enough)
      have removed : Function.update (memory.without rest) node.1 none =
          memory.without (node :: rest) := by
        funext address
        by_cases same : address = node.1
        · subst same
          have here : node.1 ∈ (node :: rest).map Prod.fst := by simp
          rw [Function.update_self, without, if_pos here]
        · have iff : address ∈ (node :: rest).map Prod.fst ↔ address ∈ rest.map Prod.fst := by
            rw [List.map_cons, List.mem_cons, or_iff_right same]
          rw [Function.update_of_ne same, without, without]
          simp only [iff]
      rw [free, if_neg nonnull, there]
      simp only [freed, Option.map_some, removed]

/-- The other cells stay. -/
theorem without_of_notMem {address : Nat} (kept : address ∉ nodes.map Prod.fst) :
    memory.without nodes address = memory address :=
  if_neg kept

/-- The cells of the list are gone. -/
theorem without_of_mem {address : Nat} (freed : address ∈ nodes.map Prod.fst) :
    memory.without nodes address = none :=
  if_pos freed

/-- What led to a cell of the list leads to one that is gone. -/
theorem Leads.without {start address : Nat} (leads : Leads memory start address)
    (freed : address ∈ nodes.map Prod.fst) :
    ∃ gone ∈ nodes.map Prod.fst, Leads (memory.without nodes) start gone := by
  induction leads with
  | here address => exact ⟨address, freed, .here address⟩
  | @next start address cell nonnull there rest ih =>
    by_cases first : start ∈ nodes.map Prod.fst
    · exact ⟨start, first, .here start⟩
    · obtain ⟨gone, member, leads⟩ := ih freed
      exact ⟨gone, member, .next nonnull ((without_of_notMem first).trans there) leads⟩

/-- A pointer to an address without a cell is linked to no list. -/
theorem Leads.not_linked {start address : Nat} (leads : Leads memory start address)
    (nonnull : address ≠ 0) (dangling : memory address = none) : ¬Linked memory start nodes := by
  induction leads generalizing nodes with
  | here address =>
    intro linked
    cases nodes with
    | nil => exact nonnull linked
    | cons node rest =>
      obtain ⟨rfl, -, next, there, -⟩ := linked
      rw [dangling] at there
      contradiction
  | next started there rest ih =>
    intro linked
    cases nodes with
    | nil => exact started linked
    | cons node others =>
      obtain ⟨rfl, -, next, here, linked⟩ := linked
      rw [there] at here
      obtain rfl := Option.some.inj here
      exact ih nonnull dangling linked

end Memory

end XrTransport
