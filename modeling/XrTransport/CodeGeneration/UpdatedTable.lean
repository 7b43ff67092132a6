import XrTransport.CodeGeneration.FunctionIds

/-!
# The updated table

What the two loops leave: an updated table has the stored entries, the last one of each name
extended by the functions its group adds, and then an entry for each group that had none; a function
has the id that the last entry gives its name.
-/
namespace XrTransport.CodeGeneration.SpecParser

/-- An entry of the table has a function of this name. -/
def Stores (entry : ExtensionEntry) (name : String) : Prop :=
  name ∈ entry.functions.map FunctionEntry.name

/-- A group has a function of this name. -/
def Lists (extension : XrExtension) (name : String) : Prop :=
  name ∈ extension.functions.map Function.name

/-- The names of the entries of a table. -/
def namesOf (table : Table) : List (Option String) := table.map ExtensionEntry.name

/-- Whether a table has an entry of a name can be decided. -/
instance decidableNamed (name : Option String) (table : Table) : Decidable (name ∈ namesOf table) :=
  inferInstance

/-- The stored entries after an update: the last one of each name is extended. -/
def extended (groups : Groups) : Table → Table
  | [] => []
  | entry :: rest =>
    (if entry.name ∈ namesOf rest then entry
    else
      match groups.lookup entry.name with
      | some extension => extendEntry extension entry
      | none => entry) :: extended groups rest

/-- The groups that have no stored entry. -/
def freshGroups (groups : Groups) (stored : Table) : Groups :=
  groups.filter fun group => group.1 ∉ namesOf stored

/-- Their entries. -/
def freshEntries (groups : Groups) (stored : Table) : Table :=
  (freshGroups groups stored).map fun group => newEntry group.1 group.2

/-- What an update makes of a stored table. -/
def XrSpec.updated (spec : XrSpec) (stored : Table) : Table :=
  extended spec.extensions stored ++ freshEntries spec.extensions stored

section Update

variable {groups : Groups} {group : Option String × XrExtension} {stored : Table}

/-- A name has a position exactly if there is an entry of that name. -/
theorem existingExtension_eq_none_iff {name : Option String} :
    existingExtension name stored = none ↔ name ∉ namesOf stored := by
  induction stored with
  | nil => simp [existingExtension, namesOf]
  | cons entry rest ih =>
    rw [existingExtension, namesOf, List.map_cons, List.mem_cons, not_or]
    cases later : existingExtension name rest with
    | some position =>
      have there : name ∈ namesOf rest := by
        by_contra missing
        exact Option.some_ne_none position (later.symm.trans (ih.mpr missing))
      simp [show name ∈ rest.map ExtensionEntry.name from there]
    | none =>
      have missing : name ∉ rest.map ExtensionEntry.name := ih.mp later
      simp [missing, eq_comm]

/-- The position lies in the table. -/
theorem existingExtension_lt {name : Option String} {position : Nat}
    (found : existingExtension name stored = some position) : position < stored.length := by
  induction stored generalizing position with
  | nil => cases found
  | cons entry rest ih =>
    rw [existingExtension] at found
    cases later : existingExtension name rest with
    | some previous =>
      rw [later] at found
      cases found
      exact Nat.succ_lt_succ (ih later)
    | none =>
      rw [later] at found
      dsimp only at found
      split at found
      · cases found
        exact Nat.succ_pos _
      · cases found

/-- Which extension a name is looked up as, with one more group. -/
theorem lookup_concat {name : Option String} (fresh : group.1 ∉ groups.map Prod.fst) :
    (groups ++ [group]).lookup name =
      if name = group.1 then some group.2 else groups.lookup name := by
  rw [List.lookup_append]
  split
  next same =>
    have missing : groups.lookup name = none := by
      rw [List.lookup_eq_none_iff]
      intro other member
      rw [bne_iff_ne, same]
      exact fun equal => fresh (equal ▸ List.mem_map_of_mem member)
    rw [missing, Option.none_or, same]
    exact List.lookup_cons_self
  next apart =>
    have missing : List.lookup name [group] = none := by
      rw [List.lookup_eq_none_iff]
      simpa using apart
    rw [missing, Option.or_none]

/-- A group without an entry extends nothing. -/
theorem extended_concat_fresh (fresh : group.1 ∉ groups.map Prod.fst)
    (missing : group.1 ∉ namesOf stored) :
    extended (groups ++ [group]) stored = extended groups stored := by
  induction stored with
  | nil => rfl
  | cons entry rest ih =>
    rw [namesOf, List.map_cons, List.mem_cons, not_or] at missing
    rw [extended, extended, ih missing.2, lookup_concat fresh, if_neg (Ne.symm missing.1)]

/-- A group with an entry extends the last one of its name. -/
theorem extended_concat (fresh : group.1 ∉ groups.map Prod.fst) {position : Nat}
    (found : existingExtension group.1 stored = some position) :
    (extended groups stored).modify position (extendEntry group.2) =
      extended (groups ++ [group]) stored := by
  induction stored generalizing position with
  | nil => cases found
  | cons entry rest ih =>
    rw [existingExtension] at found
    cases later : existingExtension group.1 rest with
    | some previous =>
      rw [later] at found
      cases found
      have there : group.1 ∈ namesOf rest := by
        by_contra missing
        exact Option.some_ne_none previous
          (later.symm.trans (existingExtension_eq_none_iff.mpr missing))
      rw [extended, extended, List.modify_succ_cons, ih later]
      congr 1
      split
      · rfl
      next last =>
        have apart : entry.name ≠ group.1 := fun same => last (same ▸ there)
        rw [lookup_concat fresh, if_neg apart]
    | none =>
      rw [later] at found
      dsimp only at found
      split at found
      next same =>
        cases found
        have missing := existingExtension_eq_none_iff.mp later
        have unlisted : groups.lookup entry.name = none := by
          rw [List.lookup_eq_none_iff]
          intro other member
          rw [bne_iff_ne, same]
          exact fun equal => fresh (equal ▸ List.mem_map_of_mem member)
        rw [extended, extended, List.modify_zero_cons, extended_concat_fresh fresh missing,
          if_neg (same ▸ missing), if_neg (same ▸ missing), unlisted, lookup_concat fresh,
          if_pos same]
      · cases found

/-- The stored entries stay in their places. -/
theorem extended_length : (extended groups stored).length = stored.length := by
  induction stored with
  | nil => rfl
  | cons entry rest ih => rw [extended, List.length_cons, List.length_cons, ih]

/-- Modifying an element of the first of two lists. -/
theorem modify_append_left {α : Type} {f : α → α} {first second : List α} {position : Nat}
    (before : position < first.length) :
    (first ++ second).modify position f = first.modify position f ++ second := by
  induction first generalizing position with
  | nil => exact absurd before (Nat.not_lt_zero position)
  | cons head rest ih =>
    cases position with
    | zero => rfl
    | succ position =>
      rw [List.cons_append, List.modify_succ_cons, ih (Nat.lt_of_succ_lt_succ before),
        List.modify_succ_cons, List.cons_append]

/-- One round of the loop over the groups. -/
theorem updateExtension_eq (fresh : group.1 ∉ groups.map Prod.fst) :
    updateExtension stored (extended groups stored ++ freshEntries groups stored) group =
      extended (groups ++ [group]) stored ++ freshEntries (groups ++ [group]) stored := by
  rw [updateExtension, freshEntries, freshEntries, freshGroups, freshGroups, List.filter_append,
    List.map_append]
  cases found : existingExtension group.1 stored with
  | none =>
    have missing := existingExtension_eq_none_iff.mp found
    rw [extended_concat_fresh fresh missing, List.filter_cons_of_pos (by simpa using missing),
      List.append_assoc]
    rfl
  | some position =>
    have there : group.1 ∈ namesOf stored := by
      by_contra missing
      exact Option.some_ne_none position
        (found.symm.trans (existingExtension_eq_none_iff.mpr missing))
    have before : position < (extended groups stored).length := by
      rw [extended_length]
      exact existingExtension_lt found
    rw [← extended_concat fresh found, List.filter_cons_of_neg (by simpa using there),
      List.filter_nil, List.map_nil, List.append_nil]
    exact modify_append_left before

/-- The update extends the stored entries and appends those of the groups that have none. -/
theorem updateFunctionIds_eq (spec : XrSpec) (stored : Table) :
    updateFunctionIds spec stored = spec.updated stored := by
  have nothing : extended [] stored ++ freshEntries [] stored = stored := by
    have none : extended [] stored = stored := by
      induction stored with
      | nil => rfl
      | cons entry rest ih =>
        rw [extended, ih]
        split
        · rfl
        · rfl
    rw [none, freshEntries, freshGroups, List.filter_nil, List.map_nil, List.append_nil]
  have loop (done todo : Groups) (keys : ((done ++ todo).map Prod.fst).Nodup) :
      todo.foldl (updateExtension stored) (extended done stored ++ freshEntries done stored) =
        extended (done ++ todo) stored ++ freshEntries (done ++ todo) stored := by
    induction todo generalizing done with
    | nil => rw [List.foldl_nil, List.append_nil]
    | cons group rest ih =>
      have fresh : group.1 ∉ done.map Prod.fst := by
        rw [List.map_append, List.map_cons] at keys
        exact fun there => (List.nodup_append.mp keys).2.2 _ there _ List.mem_cons_self rfl
      rw [List.foldl_cons, updateExtension_eq fresh, ih _ (by simpa using keys),
        List.append_assoc, List.singleton_append]
  have all := loop [] spec.extensions spec.keys
  rwa [nothing, List.nil_append] at all

end Update

/-- The ids that a table gives, in the order in which it is applied. -/
def writesOf (table : Table) : List (String × Nat) :=
  table.flatMap fun entry =>
    entry.functions.map fun function => (function.name, entry.id * 1000 + function.id)

/-- The id that a table gives a name: that of the last entry of a function of this name. -/
def idIn (table : Table) (name : String) : Option Nat := Writes.last name (writesOf table)

/-- A function that is found has the name. -/
theorem findFunction_name {spec : XrSpec} {name : String} {function : Function}
    (found : spec.findFunction name = some function) : function.name = name := by
  simpa using List.find?_some found

/-- The inner loop writes the ids of one extension. -/
theorem foldl_applyFunctionId {spec : XrSpec} {extensionId : Nat} {function : Function}
    {entries : List FunctionEntry} {ids : Ids} :
    entries.foldl (applyFunctionId spec extensionId) ids function =
      if spec.findFunction function.name = some function then
        (Writes.last function.name (entries.map fun entry =>
          (entry.name, extensionId * 1000 + entry.id))).or (ids function)
      else ids function := by
  induction entries generalizing ids with
  | nil =>
    rw [List.foldl_nil, List.map_nil, Writes.last, Option.none_or, ite_self]
  | cons entry rest ih =>
    have step : applyFunctionId spec extensionId ids entry function =
        if spec.findFunction function.name = some function ∧ entry.name = function.name then
          some (extensionId * 1000 + entry.id)
        else ids function := by
      unfold applyFunctionId
      cases found : spec.findFunction entry.name with
      | none =>
        rw [if_neg]
        rintro ⟨itself, same⟩
        rw [same, itself] at found
        cases found
      | some other =>
        by_cases same : function = other
        · subst same
          have named := findFunction_name found
          simp [named, found]
        · rw [if_neg]
          · exact if_neg same
          · rintro ⟨itself, equal⟩
            rw [equal, itself] at found
            exact same (Option.some.inj found)
    rw [List.foldl_cons, ih, step, List.map_cons, Writes.last]
    by_cases itself : spec.findFunction function.name = some function
    · rw [if_pos itself, if_pos itself, Option.or_assoc]
      congr 1
      by_cases same : entry.name = function.name
      · rw [if_pos ⟨itself, same⟩, if_pos same, Option.some_or]
      · rw [if_neg fun both => same both.2, if_neg same, Option.none_or]
    · rw [if_neg itself, if_neg itself, if_neg fun both => itself both.1]

/-- A function that is the one found by its name gets the id that the table gives its name; any
other gets none. -/
theorem applyFunctionIds_eq (spec : XrSpec) (table : Table) (function : Function) :
    applyFunctionIds spec table function =
      if spec.findFunction function.name = some function then idIn table function.name
      else none := by
  have loop (ids : Ids) :
      table.foldl (fun ids entry => entry.functions.foldl (applyFunctionId spec entry.id) ids) ids
          function =
        if spec.findFunction function.name = some function then
          (idIn table function.name).or (ids function)
        else ids function := by
    induction table generalizing ids with
    | nil =>
      show ids function = if _ then (none.or (ids function)) else _
      rw [Option.none_or, ite_self]
    | cons entry rest ih =>
      have written : writesOf (entry :: rest) = entry.functions.map (fun function =>
          (function.name, entry.id * 1000 + function.id)) ++ writesOf rest := by
        rw [writesOf, List.flatMap_cons, ← writesOf]
      rw [List.foldl_cons, ih, foldl_applyFunctionId, idIn, idIn, written, Writes.last_append]
      split
      · rw [Option.or_assoc]
      · rfl
  have all := loop fun _ => none
  rw [Option.or_none] at all
  exact all

end XrTransport.CodeGeneration.SpecParser
