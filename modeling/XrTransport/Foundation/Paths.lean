import Mathlib.Data.List.Basic
import Mathlib.Data.List.Nodup
import Mathlib.Data.List.Perm.Basic

/-!
# Places in a tree

A place is named by the way to it from the root: the numbers of the branches to take. Places found
below several branches are put together by `numbered`, which loses nothing: two such lists hold the
same places, as often, exactly if they do below every branch.
-/
namespace XrTransport

/-- The way to a place. -/
abbrev Path := List Nat

namespace Path

/-- The places below the branches of a node, which are numbered from the index on. -/
def numbered (index : Nat) : List (List Path) → List Path
  | [] => []
  | first :: rest => first.map (index :: ·) ++ numbered (index + 1) rest

/-- The same places below each branch of two nodes, as often; a branch that is missing has none. -/
def Alike : List (List Path) → List (List Path) → Prop
  | [], others => ∀ other ∈ others, other = []
  | first :: rest, others => first.Perm (others.headD []) ∧ Alike rest others.tail

/-- Places of the first branch come first, also when there is no branch. -/
theorem numbered_eq (index : Nat) (branches : List (List Path)) :
    numbered index branches =
      (branches.headD []).map (index :: ·) ++ numbered (index + 1) branches.tail := by
  cases branches with
  | nil => rfl
  | cons first rest => rfl

/-- Every way begins with the number of a branch. -/
theorem of_mem_numbered {index : Nat} {branches : List (List Path)} {path : Path}
    (member : path ∈ numbered index branches) :
    ∃ number rest, path = number :: rest ∧ index ≤ number := by
  induction branches generalizing index with
  | nil => contradiction
  | cons first others ih =>
    rcases List.mem_append.mp member with head | tail
    · obtain ⟨rest, _, rfl⟩ := List.mem_map.mp head
      exact ⟨index, rest, rfl, Nat.le_refl index⟩
    · obtain ⟨number, rest, same, later⟩ := ih tail
      exact ⟨number, rest, same, by omega⟩

/-- The node itself is not below a branch. -/
theorem root_notMem_numbered (index : Nat) (branches : List (List Path)) :
    [] ∉ numbered index branches := by
  intro member
  obtain ⟨number, rest, same, -⟩ := of_mem_numbered member
  contradiction

/-- Below no branch there is a place exactly if the list is empty. -/
theorem numbered_eq_nil {index : Nat} {branches : List (List Path)} :
    numbered index branches = [] ↔ ∀ branch ∈ branches, branch = [] := by
  induction branches generalizing index with
  | nil => simp [numbered]
  | cons first rest ih => simp [numbered, ih]

/-- No place is found twice if it is not found twice below a branch. -/
theorem numbered_nodup {index : Nat} {branches : List (List Path)}
    (each : ∀ branch ∈ branches, branch.Nodup) : (numbered index branches).Nodup := by
  induction branches generalizing index with
  | nil => exact List.nodup_nil
  | cons first rest ih =>
    refine List.Nodup.append ?_ (ih fun branch member => each branch (by simp [member])) ?_
    · exact (each first (by simp)).map fun one other same => by simpa using same
    · intro path head tail
      obtain ⟨way, _, rfl⟩ := List.mem_map.mp head
      obtain ⟨number, rest, same, later⟩ := of_mem_numbered tail
      obtain ⟨rfl, -⟩ := List.cons.inj same
      omega

/-- Whether a way begins with a branch. -/
def startsWith (index : Nat) (path : Path) : Bool := path.head? == some index

/-- The ways that begin with the first branch, and the others. -/
theorem filter_numbered (index : Nat) (first : List Path) (rest : List (List Path)) :
    (first.map (index :: ·) ++ numbered (index + 1) rest).filter (startsWith index) =
        first.map (index :: ·) ∧
      (first.map (index :: ·) ++ numbered (index + 1) rest).filter
          (fun path => !startsWith index path) = numbered (index + 1) rest := by
  have head : ∀ path ∈ first.map (index :: ·), startsWith index path = true := by
    intro path member
    obtain ⟨way, _, rfl⟩ := List.mem_map.mp member
    simp [startsWith]
  have tail : ∀ path ∈ numbered (index + 1) rest, startsWith index path = false := by
    intro path member
    obtain ⟨number, way, rfl, later⟩ := of_mem_numbered member
    have other : number ≠ index := by omega
    simp [startsWith, other]
  constructor
  · rw [List.filter_append, List.filter_eq_self.mpr head, List.filter_eq_nil_iff.mpr,
      List.append_nil]
    intro path member
    simp [tail path member]
  · rw [List.filter_append, List.filter_eq_nil_iff.mpr, List.filter_eq_self.mpr, List.nil_append]
    · intro path member
      simp [tail path member]
    · intro path member
      simp [head path member]

/-- Two nodes have the same places below them exactly if their branches do, one by one. -/
theorem numbered_perm_iff {index : Nat} {branches others : List (List Path)} :
    (numbered index branches).Perm (numbered index others) ↔ Alike branches others := by
  induction branches generalizing index others with
  | nil =>
    rw [numbered, List.nil_perm, numbered_eq_nil]
    exact Iff.rfl
  | cons first rest ih =>
    rw [numbered, numbered_eq index others, Alike]
    constructor
    · intro same
      obtain ⟨head, tail⟩ := filter_numbered index first rest
      obtain ⟨head', tail'⟩ := filter_numbered index (others.headD []) others.tail
      have front := same.filter (startsWith index)
      have back := same.filter fun path => !startsWith index path
      rw [head, head'] at front
      rw [tail, tail'] at back
      exact ⟨(List.map_perm_map_iff List.cons_injective).mp front, ih.mp back⟩
    · rintro ⟨front, back⟩
      exact (front.map _).append (ih.mpr back)

end Path

end XrTransport
