import XrTransport.CodeGeneration.UpdatedTable

/-!
# Unique and stable ids

An id is the number of an extension and an id within it. While the ids within an extension stay
below 1000 and no two entries have one number, all ids of a table are different, so they are unique;
and a function keeps its id as long as no entry after the last that stores it comes to store it as
well.
-/
namespace XrTransport.CodeGeneration.SpecParser

/-- The table from the last entry of a name on. -/
def fromLast (name : Option String) : Table → Table
  | [] => []
  | entry :: rest =>
    if name ∈ namesOf rest then fromLast name rest
    else if entry.name = name then entry :: rest
    else []

/-- Every extension that lists a function has it stored in its entry or in a later one. -/
def Kept (spec : XrSpec) (stored : Table) (name : String) : Prop :=
  ∀ group ∈ spec.extensions, Lists group.2 name →
    ∃ entry ∈ fromLast group.1 stored, Stores entry name

/-- The number of functions that a group adds to an entry. -/
def added (extension : XrExtension) (entry : ExtensionEntry) : Nat :=
  (extension.functions.filter fun function =>
    function.name ∉ entry.functions.map FunctionEntry.name).length

/-- Numbers of extensions are different, and ids within an extension are different and small. -/
structure Regular (spec : XrSpec) (stored : Table) : Prop where
  /-- No two entries, stored or new, have one number. -/
  numbers : (stored.map ExtensionEntry.id ++
    (freshGroups spec.extensions stored).map fun group => group.2.number).Nodup
  /-- No two functions of an entry have one id. -/
  different : ∀ entry ∈ stored, (entry.functions.map FunctionEntry.id).Nodup
  /-- Stored ids are below 1000. -/
  small : ∀ entry ∈ stored, ∀ function ∈ entry.functions, function.id < 1000
  /-- There is room for the functions that are added to a stored entry. -/
  room : ∀ entry ∈ stored, ∀ group ∈ spec.extensions, group.1 = entry.name →
    maxFunctionId entry.functions + added group.2 entry < 1000
  /-- There is room for those of a new entry. -/
  fresh : ∀ group ∈ freshGroups spec.extensions stored, group.2.functions.length < 1000

/-- When the ids are unique and stable. -/
structure Settled (spec : XrSpec) (stored : Table) : Prop where
  /-- No two functions have one name. -/
  named : (spec.functions.map Function.name).Nodup
  /-- Every function is stored or listed. -/
  listed : ∀ function ∈ spec.functions, (∃ entry ∈ stored, Stores entry function.name) ∨
    ∃ group ∈ spec.extensions, Lists group.2 function.name
  /-- No function that is stored is added later in the table. -/
  kept : ∀ function ∈ spec.functions,
    (∃ entry ∈ stored, Stores entry function.name) → Kept spec stored function.name

section Appending

variable {existing : List String} {functions : List Function} {counter : Nat}

/-- The names that are appended. -/
theorem appendFunctions_names :
    (appendFunctions existing counter functions).map FunctionEntry.name =
      (functions.map Function.name).filter (· ∉ existing) := by
  induction functions generalizing counter with
  | nil => rfl
  | cons function rest ih =>
    rw [appendFunctions, List.map_cons]
    split
    next there => rw [ih, List.filter_cons_of_neg (by simpa using there)]
    next missing => rw [List.map_cons, ih, List.filter_cons_of_pos (by simpa using missing)]

/-- The ids that are appended count up. -/
theorem appendFunctions_ids :
    (appendFunctions existing counter functions).map FunctionEntry.id =
      List.range' counter (functions.filter (·.name ∉ existing)).length := by
  induction functions generalizing counter with
  | nil => rfl
  | cons function rest ih =>
    rw [appendFunctions]
    split
    next there => rw [ih, List.filter_cons_of_neg (by simpa using there)]
    next missing =>
      rw [List.map_cons, ih, List.filter_cons_of_pos (by simpa using missing), List.length_cons,
        List.range'_succ]

/-- No id of an entry is larger than the largest. -/
theorem le_maxFunctionId {entries : List FunctionEntry} {entry : FunctionEntry}
    (member : entry ∈ entries) : entry.id ≤ maxFunctionId entries := by
  have loop (largest : Nat) :
      largest ≤ entries.foldl (fun largest entry => max largest entry.id) largest ∧
      ∀ entry ∈ entries,
        entry.id ≤ entries.foldl (fun largest entry => max largest entry.id) largest := by
    clear member
    induction entries generalizing largest with
    | nil => exact ⟨Nat.le_refl _, fun _ member => nomatch member⟩
    | cons first rest ih =>
      obtain ⟨above, all⟩ := ih (max largest first.id)
      constructor
      · exact Nat.le_trans (Nat.le_max_left _ _) above
      · intro entry member
        rcases List.mem_cons.mp member with rfl | later
        · exact Nat.le_trans (Nat.le_max_right _ _) above
        · exact all entry later
  exact (loop 0).2 entry member

end Appending

/-- The ids of an entry are different and small. -/
structure Confined (entry : ExtensionEntry) : Prop where
  /-- They are different. -/
  different : (entry.functions.map FunctionEntry.id).Nodup
  /-- They are small. -/
  small : ∀ id ∈ entry.functions.map FunctionEntry.id, id < 1000

/-- An extended entry has room for what is added. -/
theorem extendEntry_confined {extension : XrExtension} {entry : ExtensionEntry}
    (confined : Confined entry)
    (room : maxFunctionId entry.functions + added extension entry < 1000) :
    Confined (extendEntry extension entry) := by
  have ids : (extendEntry extension entry).functions.map FunctionEntry.id =
      entry.functions.map FunctionEntry.id ++
        List.range' (maxFunctionId entry.functions + 1) (added extension entry) := by
    rw [extendEntry, List.map_append, appendFunctions_ids]
    rfl
  constructor
  · rw [ids, List.nodup_append]
    refine ⟨confined.different, List.nodup_range' _, ?_⟩
    intro old stored new appended same
    obtain ⟨function, member, rfl⟩ := List.mem_map.mp stored
    have below := le_maxFunctionId member
    have above := (List.mem_range'_1.mp appended).1
    omega
  · intro id member
    rw [ids, List.mem_append] at member
    rcases member with stored | appended
    · exact confined.small id stored
    · have below := (List.mem_range'_1.mp appended).2
      omega

/-- So has a new one. -/
theorem newEntry_confined {name : Option String} {extension : XrExtension}
    (room : extension.functions.length < 1000) : Confined (newEntry name extension) := by
  have ids : (newEntry name extension).functions.map FunctionEntry.id =
      List.range' 1 extension.functions.length := by
    rw [newEntry, appendFunctions_ids, List.filter_eq_self.mpr (by simp),
      sortByName_perm.length_eq]
  constructor
  · rw [ids]
    exact List.nodup_range' _
  · intro id member
    rw [ids] at member
    have below := (List.mem_range'_1.mp member).2
    omega

/-- Every entry after the update is a stored one, extended or not. -/
theorem mem_extended {groups : Groups} {stored : Table} {entry : ExtensionEntry}
    (member : entry ∈ extended groups stored) :
    ∃ old ∈ stored, entry = old ∨
      ∃ extension, groups.lookup old.name = some extension ∧ entry = extendEntry extension old := by
  induction stored with
  | nil => cases member
  | cons first rest ih =>
    rw [extended] at member
    rcases List.mem_cons.mp member with rfl | later
    · refine ⟨first, List.mem_cons_self, ?_⟩
      split
      · exact .inl rfl
      · cases found : groups.lookup first.name with
        | none => exact .inl rfl
        | some extension => exact .inr ⟨extension, rfl, rfl⟩
    · obtain ⟨old, there, made⟩ := ih later
      exact ⟨old, List.mem_cons_of_mem _ there, made⟩

/-- An update leaves the numbers of the stored entries. -/
theorem extended_numbers {groups : Groups} {stored : Table} :
    (extended groups stored).map ExtensionEntry.id = stored.map ExtensionEntry.id := by
  induction stored with
  | nil => rfl
  | cons entry rest ih =>
    rw [extended, List.map_cons, List.map_cons, ih]
    congr 1
    split
    · rfl
    · split
      · rfl
      · rfl

/-- A group that is looked up is one of the groups. -/
theorem mem_of_lookup {groups : Groups} {name : Option String} {extension : XrExtension}
    (found : groups.lookup name = some extension) : (name, extension) ∈ groups := by
  obtain ⟨before, after, rfl, -⟩ := List.lookup_eq_some_iff.mp found
  exact List.mem_append_right _ List.mem_cons_self

/-- A group of a dictionary is the one that is looked up. -/
theorem lookup_of_mem {groups : Groups} {group : Option String × XrExtension}
    (keys : (groups.map Prod.fst).Nodup) (member : group ∈ groups) :
    groups.lookup group.1 = some group.2 := by
  obtain ⟨before, after, rfl⟩ := List.append_of_mem member
  rw [List.lookup_eq_some_iff]
  refine ⟨before, after, rfl, ?_⟩
  intro other inBefore
  rw [bne_iff_ne]
  rw [List.map_append, List.map_cons] at keys
  exact Ne.symm ((List.nodup_append.mp keys).2.2 other.1 (List.mem_map_of_mem inBefore) group.1
    List.mem_cons_self)

/-- The ids of a table are different if they are confined to extensions of different numbers. -/
theorem writesOf_nodup {table : Table} (numbers : (table.map ExtensionEntry.id).Nodup)
    (confined : ∀ entry ∈ table, Confined entry) :
    ((writesOf table).map Prod.snd).Nodup := by
  rw [writesOf, List.map_flatMap, List.nodup_flatMap]
  constructor
  · intro entry member
    have different := (confined entry member).different
    rw [List.map_map, show (Prod.snd ∘ fun function : FunctionEntry =>
      (function.name, entry.id * 1000 + function.id)) =
        (fun id => entry.id * 1000 + id) ∘ FunctionEntry.id from rfl, ← List.map_map]
    exact different.map fun first second same => Nat.add_left_cancel same
  · have apart := List.pairwise_map.mp numbers
    refine apart.imp_of_mem ?_
    intro first second firstMember secondMember different id inFirst inSecond
    obtain ⟨firstWrite, firstWritten, rfl⟩ := List.mem_map.mp inFirst
    obtain ⟨secondWrite, secondWritten, same⟩ := List.mem_map.mp inSecond
    obtain ⟨one, oneMember, rfl⟩ := List.mem_map.mp firstWritten
    obtain ⟨two, twoMember, rfl⟩ := List.mem_map.mp secondWritten
    have oneSmall := (confined first firstMember).small one.id (List.mem_map_of_mem oneMember)
    have twoSmall := (confined second secondMember).small two.id (List.mem_map_of_mem twoMember)
    dsimp only at same
    omega

/-- So are those of a regular update. -/
theorem Regular.nodup {spec : XrSpec} {stored : Table} (regular : Regular spec stored) :
    ((writesOf (spec.updated stored)).map Prod.snd).Nodup := by
  apply writesOf_nodup
  · rw [XrSpec.updated, List.map_append, extended_numbers, freshEntries, List.map_map]
    exact regular.numbers
  · intro entry member
    rcases List.mem_append.mp member with old | new
    · obtain ⟨entry, there, made⟩ := mem_extended old
      have confined : Confined entry := by
        constructor
        · exact regular.different entry there
        · intro id idMember
          obtain ⟨function, functionMember, rfl⟩ := List.mem_map.mp idMember
          exact regular.small entry there function functionMember
      rcases made with rfl | ⟨extension, found, rfl⟩
      · exact confined
      · exact extendEntry_confined confined
          (regular.room entry there _ (mem_of_lookup found) rfl)
    · obtain ⟨group, fresh, rfl⟩ := List.mem_map.mp new
      exact newEntry_confined (regular.fresh group fresh)

section Applying

variable {groups : Groups} {table first second : Table} {name : String}

/-- Two tables after one another give the ids of both. -/
theorem writesOf_append : writesOf (first ++ second) = writesOf first ++ writesOf second := by
  rw [writesOf, List.flatMap_append, ← writesOf, ← writesOf]

/-- Of two tables after one another the second counts, where it has the name. -/
theorem idIn_append : idIn (first ++ second) name = (idIn second name).or (idIn first name) := by
  rw [idIn, writesOf_append, Writes.last_append, idIn, idIn]

/-- A table gives a name an id exactly if an entry stores it. -/
theorem idIn_eq_none_iff : idIn table name = none ↔ ∀ entry ∈ table, ¬Stores entry name := by
  rw [idIn, Writes.last_eq_none_iff, writesOf, List.map_flatMap, List.mem_flatMap]
  simp only [not_exists, not_and, List.map_map]
  rfl

/-- An extended entry stores what it did and what the group lists. -/
theorem stores_extendEntry {extension : XrExtension} {entry : ExtensionEntry} :
    Stores (extendEntry extension entry) name ↔ Stores entry name ∨ Lists extension name := by
  rw [Stores, extendEntry, List.map_append, appendFunctions_names, List.mem_append, ← Stores]
  constructor
  · rintro (stored | appended)
    · exact .inl stored
    · exact .inr (List.mem_of_mem_filter appended)
  · rintro (stored | listed)
    · exact .inl stored
    · by_cases stored : Stores entry name
      · exact .inl stored
      · exact .inr (List.mem_filter.mpr ⟨listed, decide_eq_true stored⟩)

/-- A new entry stores what the group lists. -/
theorem stores_newEntry {key : Option String} {extension : XrExtension} :
    Stores (newEntry key extension) name ↔ Lists extension name := by
  rw [Stores, newEntry, appendFunctions_names, List.filter_eq_self.mpr (by simp), Lists]
  exact (sortByName_perm.map _).mem_iff

/-- An entry to which a name is not added gives it the id that it did. -/
theorem idIn_extendEntry {extension : XrExtension} {entry : ExtensionEntry}
    (kept : Lists extension name → Stores entry name) :
    idIn [extendEntry extension entry] name = idIn [entry] name := by
  have appended : name ∉ ((appendFunctions (entry.functions.map FunctionEntry.name)
      (maxFunctionId entry.functions + 1) extension.functions).map fun function =>
        (function.name, entry.id * 1000 + function.id)).map Prod.fst := by
    intro there
    rw [List.map_map] at there
    have filtered : name ∈ (appendFunctions (entry.functions.map FunctionEntry.name)
      (maxFunctionId entry.functions + 1) extension.functions).map FunctionEntry.name := there
    rw [appendFunctions_names, List.mem_filter] at filtered
    exact of_decide_eq_true filtered.2 (kept filtered.1)
  rw [idIn, idIn, writesOf, writesOf, List.flatMap_singleton, List.flatMap_singleton, extendEntry,
    List.map_append, Writes.last_append, Writes.last_eq_none_iff.mpr appended, Option.none_or]

/-- What stands from the last entry of a name on. -/
theorem fromLast_cases (key : Option String) :
    (key ∉ namesOf table ∧ fromLast key table = []) ∨
      ∃ entry rest, fromLast key table = entry :: rest ∧ entry.name = key ∧
        key ∉ namesOf rest := by
  induction table with
  | nil => exact .inl ⟨List.not_mem_nil, rfl⟩
  | cons entry rest ih =>
    rw [fromLast]
    split
    next later => exact .inr (ih.resolve_left fun missing => missing.1 later)
    next last =>
      split
      next same => exact .inr ⟨entry, rest, rfl, same, last⟩
      next apart =>
        refine .inl ⟨?_, rfl⟩
        rw [namesOf, List.map_cons, List.mem_cons, not_or]
        exact ⟨Ne.symm apart, last⟩

/-- It is the end of the table. -/
theorem fromLast_suffix (key : Option String) : ∃ before, table = before ++ fromLast key table := by
  induction table with
  | nil => exact ⟨[], rfl⟩
  | cons entry rest ih =>
    rw [fromLast]
    split
    · obtain ⟨before, same⟩ := ih
      exact ⟨entry :: before, congrArg (entry :: ·) same⟩
    · split
      · exact ⟨[], rfl⟩
      · exact ⟨entry :: rest, (List.append_nil _).symm⟩

/-- The end of an extended table is the extended end. -/
theorem extended_append : ∃ before, extended groups (first ++ second) =
    before ++ extended groups second ∧ ∀ write ∈ writesOf first, write ∈ writesOf before := by
  induction first with
  | nil => exact ⟨[], rfl, fun _ member => member⟩
  | cons entry rest ih =>
    obtain ⟨before, same, kept⟩ := ih
    rw [List.cons_append, extended, same]
    refine ⟨_ :: before, rfl, ?_⟩
    intro write member
    rw [writesOf, List.flatMap_cons, List.mem_append] at member
    rw [writesOf, List.flatMap_cons, List.mem_append]
    refine member.imp (fun own => ?_) (kept write)
    split
    · exact own
    · split
      · rw [extendEntry, List.map_append]
        exact List.mem_append_left _ own
      · exact own

/-- Stored entries to none of which a name is added after the last that stores it give it the id
that they did. -/
theorem idIn_extended
    (kept : ∀ group ∈ groups, Lists group.2 name → group.1 ∈ namesOf table →
      ∃ entry ∈ fromLast group.1 table, Stores entry name) :
    idIn (extended groups table) name = idIn table name := by
  induction table with
  | nil => rfl
  | cons entry rest ih =>
    have later : idIn (extended groups rest) name = idIn rest name := by
      apply ih
      intro group member lists there
      have found := kept group member lists (List.mem_cons_of_mem _ there)
      rwa [fromLast, if_pos there] at found
    rw [extended, ← List.singleton_append, ← @List.singleton_append _ _ rest, idIn_append,
      idIn_append, later]
    cases stored : idIn rest name with
    | some id => rw [Option.some_or, Option.some_or]
    | none =>
      rw [Option.none_or, Option.none_or]
      split
      · rfl
      next last =>
        split
        next extension found =>
          apply idIn_extendEntry
          intro lists
          obtain ⟨other, there, stores⟩ :=
            kept _ (mem_of_lookup found) lists List.mem_cons_self
          rw [fromLast, if_neg last, if_pos rfl] at there
          rcases List.mem_cons.mp there with rfl | inRest
          · exact stores
          · exact absurd stores (idIn_eq_none_iff.mp stored other inRest)
        · rfl

/-- The last entry of a name that has a group stores what the group lists. -/
theorem stores_extended {key : Option String} {extension : XrExtension}
    (listed : groups.lookup key = some extension) (lists : Lists extension name)
    (there : key ∈ namesOf table) : ∃ entry ∈ extended groups table, Stores entry name := by
  induction table with
  | nil => cases there
  | cons entry rest ih =>
    rw [extended]
    by_cases later : key ∈ namesOf rest
    · obtain ⟨other, member, stores⟩ := ih later
      exact ⟨other, List.mem_cons_of_mem _ member, stores⟩
    · have same : key = entry.name := (List.mem_cons.mp there).resolve_right later
      refine ⟨_, List.mem_cons_self, ?_⟩
      rw [if_neg (same ▸ later), ← same, listed]
      exact stores_extendEntry.mpr (.inr lists)

end Applying

section Settling

variable {spec : XrSpec} {stored : Table} {name : String}

/-- After an update the table stores what it stored and what the groups list. -/
theorem stores_updated : (∃ entry ∈ spec.updated stored, Stores entry name) ↔
    (∃ entry ∈ stored, Stores entry name) ∨ ∃ group ∈ spec.extensions, Lists group.2 name := by
  constructor
  · rintro ⟨entry, member, stores⟩
    rcases List.mem_append.mp member with inOld | new
    · obtain ⟨old, there, made⟩ := mem_extended inOld
      rcases made with rfl | ⟨extension, found, rfl⟩
      · exact .inl ⟨_, there, stores⟩
      · rcases stores_extendEntry.mp stores with stored | lists
        · exact .inl ⟨old, there, stored⟩
        · exact .inr ⟨_, mem_of_lookup found, lists⟩
    · obtain ⟨group, fresh, rfl⟩ := List.mem_map.mp new
      exact .inr ⟨group, List.mem_of_mem_filter fresh, stores_newEntry.mp stores⟩
  · rintro (⟨entry, there, stores⟩ | ⟨group, member, lists⟩)
    · have written : ∃ id, (name, id) ∈ writesOf stored := by
        obtain ⟨function, functionMember, rfl⟩ := List.mem_map.mp stores
        exact ⟨_, List.mem_flatMap.mpr ⟨entry, there, List.mem_map_of_mem functionMember⟩⟩
      obtain ⟨id, written⟩ := written
      obtain ⟨before, same, kept⟩ := @extended_append spec.extensions stored []
      have still := kept _ written
      obtain ⟨entry, there, named⟩ := List.mem_flatMap.mp still
      obtain ⟨function, functionMember, equal⟩ := List.mem_map.mp named
      rw [List.append_nil] at same
      refine ⟨entry, List.mem_append_left _ (same ▸ List.mem_append_left _ there), ?_⟩
      have same : function.name = name := congrArg Prod.fst equal
      rw [← same]
      exact List.mem_map_of_mem functionMember
    · by_cases there : group.1 ∈ namesOf stored
      · obtain ⟨entry, member, stores⟩ :=
          stores_extended (lookup_of_mem spec.keys member) lists there
        exact ⟨entry, List.mem_append_left _ member, stores⟩
      · have fresh : group ∈ freshGroups spec.extensions stored :=
          List.mem_filter.mpr ⟨member, decide_eq_true there⟩
        exact ⟨newEntry group.1 group.2, List.mem_append_right _ (List.mem_map_of_mem fresh),
          stores_newEntry.mpr lists⟩

/-- A function that is kept has the id that it had. -/
theorem Kept.idIn_updated (kept : Kept spec stored name) :
    idIn (spec.updated stored) name = idIn stored name := by
  have unlisted : idIn (freshEntries spec.extensions stored) name = none := by
    rw [idIn_eq_none_iff]
    intro entry member stores
    obtain ⟨group, fresh, rfl⟩ := List.mem_map.mp member
    obtain ⟨inGroups, missing⟩ := List.mem_filter.mp fresh
    obtain ⟨other, there, _⟩ := kept group inGroups (stores_newEntry.mp stores)
    rcases @fromLast_cases stored group.1 with ⟨_, nothing⟩ | ⟨entry, rest, found, same, _⟩
    · rw [nothing] at there
      cases there
    · obtain ⟨before, whole⟩ := @fromLast_suffix stored group.1
      apply of_decide_eq_true missing
      rw [whole, found, namesOf, List.map_append, List.map_cons, same]
      exact List.mem_append_right _ List.mem_cons_self
  rw [XrSpec.updated, idIn_append, unlisted, Option.none_or]
  exact idIn_extended fun group member lists _ => kept group member lists

/-- A function that an extension lists, but that is stored neither in its entry nor later, gets
another id. -/
theorem Regular.idIn_updated_ne (regular : Regular spec stored)
    {group : Option String × XrExtension} (member : group ∈ spec.extensions)
    (lists : Lists group.2 name) (free : ∀ entry ∈ fromLast group.1 stored, ¬Stores entry name)
    {id : Nat} (had : idIn stored name = some id) : idIn (spec.updated stored) name ≠ some id := by
  obtain ⟨first, whole⟩ := @fromLast_suffix stored group.1
  obtain ⟨before, same, kept⟩ :=
    @extended_append spec.extensions first (fromLast group.1 stored)
  have split : spec.updated stored = before ++
      (extended spec.extensions (fromLast group.1 stored) ++
        freshEntries spec.extensions stored) := by
    rw [XrSpec.updated, ← List.append_assoc, ← same, ← whole]
  have stays : (name, id) ∈ writesOf before := by
    have later : idIn (fromLast group.1 stored) name = none := idIn_eq_none_iff.mpr free
    rw [whole, idIn_append, later, Option.none_or] at had
    exact kept _ (Writes.last_mem had)
  have listed : ∃ entry ∈ extended spec.extensions (fromLast group.1 stored) ++
      freshEntries spec.extensions stored, Stores entry name := by
    rcases @fromLast_cases stored group.1 with ⟨missing, _⟩ | ⟨entry, rest, found, same, _⟩
    · have fresh : group ∈ freshGroups spec.extensions stored :=
        List.mem_filter.mpr ⟨member, decide_eq_true missing⟩
      exact ⟨newEntry group.1 group.2, List.mem_append_right _ (List.mem_map_of_mem fresh),
        stores_newEntry.mpr lists⟩
    · have there : group.1 ∈ namesOf (fromLast group.1 stored) := by
        rw [found, namesOf, List.map_cons, same]
        exact List.mem_cons_self
      obtain ⟨entry, member, stores⟩ :=
        stores_extended (lookup_of_mem spec.keys member) lists there
      exact ⟨entry, List.mem_append_left _ member, stores⟩
  intro equal
  have nodup := regular.nodup
  rw [split, writesOf_append, List.map_append] at nodup
  cases newId : idIn (extended spec.extensions (fromLast group.1 stored) ++
      freshEntries spec.extensions stored) name with
  | none =>
    obtain ⟨entry, there, stores⟩ := listed
    exact idIn_eq_none_iff.mp newId entry there stores
  | some new =>
    rw [split, idIn_append, newId, Option.some_or] at equal
    cases equal
    exact (List.nodup_append.mp nodup).2.2 id (List.mem_map_of_mem stays) id
      (List.mem_map_of_mem (Writes.last_mem newId)) rfl

/-- The functions are found by their names exactly if no two have one name. -/
theorem findFunction_iff : (∀ function ∈ spec.functions,
    spec.findFunction function.name = some function) ↔
      (spec.functions.map Function.name).Nodup := by
  constructor
  · intro found
    apply List.Nodup.map_on _ spec.objects
    intro function member other otherMember same
    have equal := found function member
    rw [same, found other otherMember] at equal
    exact (Option.some.inj equal).symm
  · intro named function member
    have present : (spec.findFunction function.name).isSome = true := by
      rw [XrSpec.findFunction, List.find?_isSome]
      exact ⟨function, List.mem_reverse.mpr member, by simp⟩
    obtain ⟨other, found⟩ := Option.isSome_iff_exists.mp present
    have otherMember : other ∈ spec.functions :=
      List.mem_reverse.mp (List.mem_of_find?_eq_some found)
    rw [found, List.inj_on_of_nodup_map named otherMember member (findFunction_name found)]

/-- For every specification and every stored table with different numbers and small ids: after the
update and the application every function has an id, no two have the same, and those that had one
keep it, exactly if no two functions have one name, every function is stored or listed, and every
extension that lists a stored function has it stored in its entry or in a later one. -/
theorem function_ids_unique_and_stable_iff (spec : XrSpec) (stored : Table)
    (regular : Regular spec stored) : UniqueAndStable spec stored ↔ Settled spec stored := by
  have before (function : Function) := applyFunctionIds_eq spec stored function
  have after (function : Function) : updatedIds spec stored function =
      if spec.findFunction function.name = some function then
        idIn (spec.updated stored) function.name
      else none := by
    rw [updatedIds, applyFunctionIds_eq, updateFunctionIds_eq]
  have listed_iff (name : String) : (idIn (spec.updated stored) name).isSome = true ↔
      (∃ entry ∈ stored, Stores entry name) ∨ ∃ group ∈ spec.extensions, Lists group.2 name := by
    rw [← stores_updated, Option.isSome_iff_ne_none, ne_eq, idIn_eq_none_iff]
    simp only [not_forall, not_not, exists_prop]
  constructor
  · intro holds
    have found (function : Function) (member : function ∈ spec.functions) :
        spec.findFunction function.name = some function := by
      have some := holds.every function member
      rw [after] at some
      by_contra other
      rw [if_neg other] at some
      cases some
    have updated (function : Function) (member : function ∈ spec.functions) :
        updatedIds spec stored function = idIn (spec.updated stored) function.name := by
      rw [after, if_pos (found function member)]
    have stable (function : Function) (member : function ∈ spec.functions) (id : Nat)
        (had : idIn stored function.name = some id) :
        idIn (spec.updated stored) function.name = some id := by
      rw [← updated function member]
      apply holds.stable function member
      rw [before, if_pos (found function member), had]
    constructor
    · exact findFunction_iff.mp found
    · intro function member
      rw [← listed_iff, ← updated function member]
      exact holds.every function member
    · intro function member isStored group inGroups lists
      by_contra free
      have present : idIn stored function.name ≠ none := by
        rw [ne_eq, idIn_eq_none_iff]
        obtain ⟨entry, there, stores⟩ := isStored
        exact fun nowhere => nowhere entry there stores
      obtain ⟨id, had⟩ := Option.ne_none_iff_exists'.mp present
      exact regular.idIn_updated_ne inGroups lists
        (fun entry there stores => free ⟨entry, there, stores⟩) had
        (stable function member id had)
  · intro settled
    have found := findFunction_iff.mpr settled.named
    have updated (function : Function) (member : function ∈ spec.functions) :
        updatedIds spec stored function = idIn (spec.updated stored) function.name := by
      rw [after, if_pos (found function member)]
    have every (function : Function) (member : function ∈ spec.functions) :
        (updatedIds spec stored function).isSome = true := by
      rw [updated function member, listed_iff]
      exact settled.listed function member
    have unique (function : Function) (member : function ∈ spec.functions) (other : Function)
        (otherMember : other ∈ spec.functions)
        (same : updatedIds spec stored function = updatedIds spec stored other) :
        function = other := by
      obtain ⟨id, has⟩ := Option.isSome_iff_exists.mp (every function member)
      have hasToo := same.symm.trans has
      rw [updated function member] at has
      rw [updated other otherMember] at hasToo
      have equal := List.inj_on_of_nodup_map regular.nodup (Writes.last_mem has)
        (Writes.last_mem hasToo) rfl
      exact List.inj_on_of_nodup_map settled.named member otherMember (congrArg Prod.fst equal)
    constructor
    · exact every
    · exact unique
    · intro enabled handler member other otherMember same
      have grouped {handler : Option Nat × Function}
          (member : handler ∈ handlers enabled spec (updatedIds spec stored)) :
          handler.2 ∈ spec.functions ∧ handler.1 = updatedIds spec stored handler.2 := by
        obtain ⟨function, emitted, rfl⟩ := List.mem_map.mp member
        obtain ⟨group, listed, inGroup⟩ := List.mem_flatMap.mp emitted
        exact ⟨spec.grouped group (List.mem_of_mem_filter listed) function inGroup, rfl⟩
      obtain ⟨inSpec, id⟩ := grouped member
      obtain ⟨otherInSpec, otherId⟩ := grouped otherMember
      apply Prod.ext same
      rw [id, otherId] at same
      exact unique _ inSpec _ otherInSpec same
    · intro function member id had
      rw [before, if_pos (found function member)] at had
      rw [updated function member]
      have isStored : ∃ entry ∈ stored, Stores entry function.name := by
        by_contra nowhere
        have none := idIn_eq_none_iff.mpr fun entry there stores => nowhere ⟨entry, there, stores⟩
        rw [none] at had
        cases had
      rw [(settled.kept function member isStored).idIn_updated, had]

end Settling

/-- A registry with one command, which these extensions list. -/
def listedBy (names : List (String × Nat)) : Registry where
  types := []
  commands := [⟨"xrLocate", none⟩]
  extensions := names.map fun (name, number) => ⟨name, number, [{ commands := ["xrLocate"] }]⟩

/-- The table that is stored while only the first extension lists the command. -/
def storedFirst : Table := generateFunctionIds (parseSpec (listedBy [("XR_EXT_first", 1)]))

/-- A later registry, where another extension brings a command of its own. -/
def grown : Registry where
  types := []
  commands := [⟨"xrLocate", none⟩, ⟨"xrSync", none⟩]
  extensions := [⟨"XR_EXT_first", 1, [{ commands := ["xrLocate"] }]⟩,
    ⟨"XR_EXT_second", 2, [{ commands := ["xrSync"] }]⟩]

/-- Its two functions have ids of their own, and the first keeps the one it had. -/
theorem grown_unique_and_stable : UniqueAndStable (parseSpec grown) storedFirst := by
  have regular : Regular (parseSpec grown) storedFirst := by
    constructor
    · decide
    · decide
    · decide
    · decide
    · decide
  apply (function_ids_unique_and_stable_iff _ _ regular).mpr
  refine ⟨by decide, ?_, ?_⟩
  · simp only [Stores, Lists]
    decide
  · simp only [Kept, Stores, Lists]
    decide

/-- Once another extension lists the command too, its id changes. -/
theorem listed_again_changes_id :
    ¬∀ (spec : XrSpec) (stored : Table), Regular spec stored → UniqueAndStable spec stored := by
  intro always
  have regular : Regular (parseSpec (listedBy [("XR_EXT_first", 1), ("XR_EXT_second", 2)]))
      storedFirst := by
    constructor
    · decide
    · decide
    · decide
    · decide
    · decide
  have stable := (always _ _ regular).stable ⟨0, "xrLocate"⟩ (by decide) 1001
    (by decide)
  exact absurd stable (by decide)

end XrTransport.CodeGeneration.SpecParser
