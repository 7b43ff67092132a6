import Mathlib.Data.List.AList

/-!
# Writes to a table

A list of writes to a table by key, the later ones replacing the earlier ones of the same key. The
writes that stand are those that no later one replaces; the table holds them and nothing else.
-/
namespace XrTransport.Writes

variable {κ ν : Type} [DecidableEq κ]

/-- The writes that no later one replaces. -/
def standing : List (κ × ν) → List (κ × ν)
  | [] => []
  | write :: rest =>
    if write.1 ∈ rest.map Prod.fst then standing rest else write :: standing rest

/-- A table after some writes. -/
def perform (table : AList fun _ : κ => ν) (writes : List (κ × ν)) : AList fun _ : κ => ν :=
  writes.foldl (fun table write => table.insert write.1 write.2) table

/-- The entries of a table, as writes. -/
def entriesOf (table : AList fun _ : κ => ν) : List (κ × ν) :=
  table.entries.map fun entry => (entry.1, entry.2)

/-- Without one of its keys, a table has the entries of the others. -/
theorem kerase_eq_filter {key : κ} {entries : List (Sigma fun _ : κ => ν)}
    (different : entries.NodupKeys) :
    entries.kerase key = entries.filter fun entry => entry.1 ≠ key := by
  induction entries with
  | nil => rfl
  | cons first rest ih =>
    obtain ⟨fresh, different⟩ := List.nodupKeys_cons.mp different
    by_cases same : first.1 = key
    · have none : ∀ entry ∈ rest, entry.1 ≠ key := by
        intro entry member equal
        exact fresh (same ▸ equal ▸ List.mem_keys_of_mem member)
      rw [List.kerase_cons_eq same.symm, List.filter_cons_of_neg (by simpa using same),
        List.filter_eq_self.mpr (by simpa using none)]
    · rw [List.kerase_cons_ne (Ne.symm same), ih different,
        List.filter_cons_of_pos (by simpa using same)]

/-- After some writes a table holds the writes that stand, and what it held under other keys. -/
theorem perform_perm (table : AList fun _ : κ => ν) (writes : List (κ × ν)) :
    (entriesOf (perform table writes)).Perm
      (standing writes ++
        (entriesOf table).filter fun entry => entry.1 ∉ writes.map Prod.fst) := by
  induction writes generalizing table with
  | nil => simp [perform, standing]
  | cons write rest ih =>
    have inserted : entriesOf (table.insert write.1 write.2) =
        write :: (entriesOf table).filter fun entry => entry.1 ≠ write.1 := by
      rw [entriesOf, AList.entries_insert, kerase_eq_filter table.nodupKeys, List.map_cons,
        entriesOf, List.filter_map]
      rfl
    have others : ((entriesOf table).filter fun entry => entry.1 ≠ write.1).filter
          (fun entry => entry.1 ∉ rest.map Prod.fst) =
        (entriesOf table).filter fun entry => entry.1 ∉ (write :: rest).map Prod.fst := by
      rw [List.filter_filter]
      apply List.filter_congr
      intro entry _
      simp only [← Bool.decide_and, List.map_cons, List.mem_cons, not_or, and_comm, ne_eq]
    have rest := ih (table.insert write.1 write.2)
    rw [inserted] at rest
    show (entriesOf (perform (table.insert write.1 write.2) _)).Perm _
    refine rest.trans ?_
    rw [standing]
    split
    next replaced =>
      rw [List.filter_cons_of_neg (by simpa using replaced), others]
    next stands =>
      rw [List.filter_cons_of_pos (by simpa using stands), others]
      exact List.perm_middle

/-- A table made of some writes holds those that stand. -/
theorem perform_empty_perm (writes : List (κ × ν)) :
    (entriesOf (perform (∅ : AList fun _ : κ => ν) writes)).Perm (standing writes) := by
  have all := perform_perm (∅ : AList fun _ : κ => ν) writes
  have nothing : entriesOf (∅ : AList fun _ : κ => ν) = [] := rfl
  rwa [nothing, List.filter_nil, List.append_nil] at all

/-- A write that stands is one of the writes. -/
theorem standing_subset {writes : List (κ × ν)} {write : κ × ν} (stands : write ∈ standing writes) :
    write ∈ writes := by
  induction writes with
  | nil => exact stands
  | cons first rest ih =>
    rw [standing] at stands
    split at stands
    · exact List.mem_cons_of_mem _ (ih stands)
    · rcases List.mem_cons.mp stands with rfl | later
      · exact List.mem_cons_self
      · exact List.mem_cons_of_mem _ (ih later)

/-- Which writes stand does not depend on what they write. -/
theorem standing_map {μ : Type} (f : ν → μ) (writes : List (κ × ν)) :
    standing (writes.map fun write => (write.1, f write.2)) =
      (standing writes).map fun write => (write.1, f write.2) := by
  have keys (writes : List (κ × ν)) :
      (writes.map fun write => (write.1, f write.2)).map Prod.fst = writes.map Prod.fst := by
    rw [List.map_map]
    rfl
  induction writes with
  | nil => rfl
  | cons write rest ih =>
    simp only [List.map_cons, standing, keys, ih]
    split
    · rfl
    · rfl

/-- A last write of a new key replaces nothing. -/
theorem standing_append_fresh {writes : List (κ × ν)} {last : κ × ν}
    (fresh : last.1 ∉ writes.map Prod.fst) :
    standing (writes ++ [last]) = standing writes ++ [last] := by
  induction writes with
  | nil => rfl
  | cons write rest ih =>
    rw [List.map_cons, List.mem_cons, not_or] at fresh
    have apart : write.1 ∈ (rest ++ [last]).map Prod.fst ↔ write.1 ∈ rest.map Prod.fst := by
      rw [List.map_append, List.mem_append, List.map_singleton, List.mem_singleton]
      exact or_iff_left (Ne.symm fresh.1)
    rw [List.cons_append, standing, standing, ih fresh.2]
    simp only [apart]
    split
    · rfl
    · rfl

/-- What the last write of a key writes. -/
def last (key : κ) : List (κ × ν) → Option ν
  | [] => none
  | write :: rest => (last key rest).or (if write.1 = key then some write.2 else none)

/-- Of two lists of writes the later one counts, where it writes the key. -/
theorem last_append (key : κ) (first second : List (κ × ν)) :
    last key (first ++ second) = (last key second).or (last key first) := by
  induction first with
  | nil => rw [List.nil_append, last, Option.or_none]
  | cons write rest ih => rw [List.cons_append, last, ih, last, Option.or_assoc]

/-- Nothing is written under a key that no write has. -/
theorem last_eq_none_iff {key : κ} {writes : List (κ × ν)} :
    last key writes = none ↔ key ∉ writes.map Prod.fst := by
  induction writes with
  | nil => simp [last]
  | cons write rest ih =>
    rw [last, Option.or_eq_none_iff, ih, List.map_cons, List.mem_cons, not_or, and_comm]
    simp [eq_comm]

/-- The last write of a key is one of the writes. -/
theorem last_mem {key : κ} {value : ν} {writes : List (κ × ν)}
    (written : last key writes = some value) : (key, value) ∈ writes := by
  induction writes with
  | nil => cases written
  | cons write rest ih =>
    rw [last, Option.or_eq_some_iff] at written
    rcases written with later | ⟨-, first⟩
    · exact List.mem_cons_of_mem _ (ih later)
    · split at first
      next same =>
        cases first
        exact same ▸ List.mem_cons_self
      · cases first

end XrTransport.Writes
