import Mathlib.Data.List.Flatten
import Mathlib.Data.List.Nodup
import Mathlib.Data.List.Perm.Basic
import XrTransport.CodeGeneration.SpecParser
import XrTransport.Foundation.Writes

/-!
# How often a struct or function is in a group

A struct gets into the group of an extension once for every `type` tag with its name and once for
every `enum` tag with its structure type, and into the core group if no extension tag mentions it.
-/
namespace XrTransport.CodeGeneration.SpecParser

/-- The structs that an extension tag mentions, each as often as it does. -/
def mentionedStructs (structs : List Struct) (tag : ExtensionTag) : List Struct :=
  (tag.findAll RequireTag.types).filterMap (fun name => structs.find? (·.name = name)) ++
    (tag.findAll RequireTag.enums).filterMap fun enum =>
      if enum.extended = some "XrStructureType" then structs.find? (·.xrType = some enum.name)
      else none

/-- The functions that an extension tag mentions. -/
def mentionedFunctions (functions : List Function) (tag : ExtensionTag) : List Function :=
  (tag.findAll RequireTag.commands).filterMap fun name => functions.find? (·.name = name)

/-- The group of an extension tag. -/
def groupOf (structs : List Struct) (functions : List Function) (tag : ExtensionTag) :
    XrExtension where
  number := tag.number
  structs := sortByName Struct.name (mentionedStructs structs tag)
  functions := sortByName Function.name (mentionedFunctions functions tag)

/-- The tags that mention anything, by name. -/
def namedTags (structs : List Struct) (functions : List Function) (tags : List ExtensionTag) :
    List (Option String × ExtensionTag) :=
  (tags.filter fun tag =>
    mentionedStructs structs tag ≠ [] ∨ mentionedFunctions functions tag ≠ []).map fun tag =>
      (some tag.name, tag)

/-- The tags whose groups stay: the last of each name among those that mention anything. -/
def standingTags (structs : List Struct) (functions : List Function) (tags : List ExtensionTag) :
    List ExtensionTag :=
  (Writes.standing (namedTags structs functions tags)).map Prod.snd

section Sorting

variable {α : Type} {nameOf : α → String} {objects : List α}

/-- Sorting permutes. -/
theorem sortByName_perm : (sortByName nameOf objects).Perm objects :=
  List.perm_insertionSort _ _

/-- Nothing is sorted into something. -/
theorem sortByName_eq_nil : sortByName nameOf objects = [] ↔ objects = [] := by
  constructor
  · intro sorted
    have perm : (sortByName nameOf objects).Perm objects := sortByName_perm
    rw [sorted] at perm
    exact perm.nil_eq.symm
  · rintro rfl
    rfl

end Sorting

/-- A loop over things to find takes what it finds. -/
theorem foldl_take {α β : Type} [DecidableEq α] (find : β → Option α) (items : List β)
    (taken : List α × List α) :
    items.foldl (fun taken item => take taken (find item)) taken =
      (taken.1 ++ items.filterMap find, taken.2.filter (· ∉ items.filterMap find)) := by
  induction items generalizing taken with
  | nil => simp
  | cons item rest ih =>
    rw [List.foldl_cons, ih]
    cases found : find item with
    | none => rw [List.filterMap_cons_none found, take]
    | some object =>
      rw [List.filterMap_cons_some found, take, List.append_assoc, List.filter_filter]
      congr 1
      apply List.filter_congr
      intro other _
      simp only [← Bool.decide_and, List.mem_cons, not_or, and_comm, ne_eq]

/-- One round adds the group of the tag, unless it is empty, and discards what the tag mentions. -/
theorem collectExtension_eq {structs : List Struct} {functions : List Function}
    {collected : Collected} {tag : ExtensionTag} :
    collectExtension structs functions collected tag =
      { noExtensionStructs :=
          collected.noExtensionStructs.filter (· ∉ mentionedStructs structs tag)
        noExtensionFunctions :=
          collected.noExtensionFunctions.filter (· ∉ mentionedFunctions functions tag)
        extensions := Writes.perform collected.extensions
          ((namedTags structs functions [tag]).map fun entry =>
            (entry.1, groupOf structs functions entry.2)) } := by
  have enumerate (taken : List Struct × List Struct) (enum : EnumTag) :
      (if enum.extended = some "XrStructureType" then
        take taken (structs.find? (·.xrType = some enum.name)) else taken) =
      take taken (if enum.extended = some "XrStructureType" then
        structs.find? (·.xrType = some enum.name) else none) := by
    split
    · rfl
    · rfl
  have left (all : List Struct) : (all.filter (· ∉ (tag.findAll RequireTag.types).filterMap
        (fun name => structs.find? (·.name = name)))).filter
        (· ∉ (tag.findAll RequireTag.enums).filterMap fun enum =>
          if enum.extended = some "XrStructureType" then
            structs.find? (·.xrType = some enum.name)
          else none) = all.filter (· ∉ mentionedStructs structs tag) := by
    rw [List.filter_filter]
    apply List.filter_congr
    intro other _
    simp only [mentionedStructs, ← Bool.decide_and, List.mem_append, not_or, and_comm]
  simp only [collectExtension, enumerate, foldl_take, List.nil_append, left]
  congr 1
  show (if sortByName Struct.name (mentionedStructs structs tag) ≠ [] ∨
      sortByName Function.name (mentionedFunctions functions tag) ≠ [] then _ else _) = _
  simp only [ne_eq, sortByName_eq_nil, namedTags]
  split
  next mentions =>
    rw [List.filter_cons_of_pos (by simpa using mentions)]
    rfl
  next blank =>
    rw [List.filter_cons_of_neg (by simpa using blank)]
    rfl

/-- After the loop, the objects without an extension are those that no tag mentions. -/
theorem collected_eq {structs : List Struct} {functions : List Function} {collected : Collected}
    {tags : List ExtensionTag} :
    tags.foldl (collectExtension structs functions) collected =
      { noExtensionStructs := collected.noExtensionStructs.filter fun struct =>
          ∀ tag ∈ tags, struct ∉ mentionedStructs structs tag
        noExtensionFunctions := collected.noExtensionFunctions.filter fun function =>
          ∀ tag ∈ tags, function ∉ mentionedFunctions functions tag
        extensions := Writes.perform collected.extensions
          ((namedTags structs functions tags).map fun entry =>
            (entry.1, groupOf structs functions entry.2)) } := by
  induction tags generalizing collected with
  | nil => simp [namedTags, Writes.perform]
  | cons tag rest ih =>
    have named : namedTags structs functions (tag :: rest) =
        namedTags structs functions [tag] ++ namedTags structs functions rest := by
      rw [namedTags, namedTags, namedTags, ← List.map_append, ← List.filter_append,
        List.singleton_append]
    rw [List.foldl_cons, ih, collectExtension_eq, named, List.map_append, Writes.perform,
      Writes.perform, Writes.perform, List.foldl_append]
    congr 1
    · rw [List.filter_filter]
      apply List.filter_congr
      intro struct _
      simp only [← Bool.decide_and, List.forall_mem_cons, and_comm]
    · rw [List.filter_filter]
      apply List.filter_congr
      intro function _
      simp only [← Bool.decide_and, List.forall_mem_cons, and_comm]

/-- The core group: what no tag mentions. -/
def coreOf (structs : List Struct) (functions : List Function) (tags : List ExtensionTag) :
    XrExtension where
  number := 0
  structs := sortByName Struct.name <| structs.filter fun struct =>
    ∀ tag ∈ tags, struct ∉ mentionedStructs structs tag
  functions := sortByName Function.name <| functions.filter fun function =>
    ∀ tag ∈ tags, function ∉ mentionedFunctions functions tag

/-- The groups are those of the tags that stand, and the core. -/
theorem collectExtensions_perm {registry : Registry} {structs : List Struct}
    {functions : List Function} :
    (collectExtensions registry structs functions).Perm
      ((Writes.standing (namedTags structs functions registry.extensions)).map (fun entry =>
          (entry.1, groupOf structs functions entry.2)) ++
        [(none, coreOf structs functions registry.extensions)]) := by
  have fresh : none ∉ ((namedTags structs functions registry.extensions).map fun entry =>
      (entry.1, groupOf structs functions entry.2)).map Prod.fst := by
    simp [namedTags]
  have written := Writes.perform_empty_perm
    (((namedTags structs functions registry.extensions).map fun entry =>
      (entry.1, groupOf structs functions entry.2)) ++
      [(none, coreOf structs functions registry.extensions)])
  rw [Writes.standing_append_fresh fresh, Writes.standing_map, Writes.perform,
    List.foldl_append] at written
  have sorted : (collectExtensions registry structs functions).Perm (Writes.entriesOf _) :=
    List.perm_insertionSort _ _
  rw [collected_eq] at sorted
  exact sorted.trans written

section Counting

variable {α : Type} [DecidableEq α] {structs : List Struct} {functions : List Function}
  {registry : Registry} {members : XrExtension → List α} {mentions : ExtensionTag → List α}

/-- How often an object is in all groups together: once for every mention by a tag that stands, and
as often as in the core. -/
theorem count_groups
    (grouped : ∀ tag, (members (groupOf structs functions tag)).Perm (mentions tag))
    (object : α) :
    ((collectExtensions registry structs functions).flatMap fun group => members group.2).count
        object =
      ((standingTags structs functions registry.extensions).flatMap mentions).count object +
        (members (coreOf structs functions registry.extensions)).count object := by
  have counted := ((@collectExtensions_perm registry structs functions).flatMap_right
    fun group => members group.2).count_eq object
  rw [counted, List.flatMap_append, List.count_append, List.flatMap_singleton, List.flatMap_map,
    standingTags, List.flatMap_map]
  congr 1
  exact (List.Perm.flatMap_left _ fun entry _ => grouped entry.2).count_eq object

/-- What a tag that stands mentions, some tag mentions. -/
theorem mem_standingTags {tag : ExtensionTag}
    (stands : tag ∈ standingTags structs functions registry.extensions) :
    tag ∈ registry.extensions := by
  obtain ⟨entry, standing, rfl⟩ := List.mem_map.mp stands
  obtain ⟨tag, member, rfl⟩ := List.mem_map.mp (Writes.standing_subset standing)
  exact (List.mem_filter.mp member).1

/-- An object is in all groups together once exactly if no tag mentions it, or the tags that stand
mention it once. -/
theorem count_groups_eq_one_iff {objects : List α}
    (grouped : ∀ tag, (members (groupOf structs functions tag)).Perm (mentions tag))
    (core : (members (coreOf structs functions registry.extensions)).Perm
      (objects.filter fun object => ∀ tag ∈ registry.extensions, object ∉ mentions tag))
    (different : objects.Nodup) {object : α} (member : object ∈ objects) :
    ((collectExtensions registry structs functions).flatMap fun group => members group.2).count
        object = 1 ↔
      (∀ tag ∈ registry.extensions, object ∉ mentions tag) ∨
        ((standingTags structs functions registry.extensions).flatMap mentions).count object =
          1 := by
  rw [count_groups grouped, core.count_eq]
  by_cases free : ∀ tag ∈ registry.extensions, object ∉ mentions tag
  · have inCore : object ∈ objects.filter fun object =>
        ∀ tag ∈ registry.extensions, object ∉ mentions tag :=
      List.mem_filter.mpr ⟨member, decide_eq_true free⟩
    have unmentioned :
        object ∉ (standingTags structs functions registry.extensions).flatMap mentions := by
      intro mentioned
      obtain ⟨tag, stands, mentioned⟩ := List.mem_flatMap.mp mentioned
      exact free tag (mem_standingTags stands) mentioned
    rw [List.count_eq_zero.mpr unmentioned,
      List.count_eq_one_of_mem (different.filter _) inCore]
    exact ⟨fun _ => .inl free, fun _ => rfl⟩
  · have notInCore : object ∉ objects.filter fun object =>
        ∀ tag ∈ registry.extensions, object ∉ mentions tag :=
      fun inCore => free (of_decide_eq_true (List.mem_filter.mp inCore).2)
    rw [List.count_eq_zero.mpr notInCore, Nat.add_zero, or_iff_right free]

/-- What is emitted of the groups that are compiled in is emitted once if it is in the groups once.
-/
theorem count_emitted {groups : Groups} {enabled : String → Bool} {kept : α → Bool}
    {group : Option String × XrExtension} {object : α}
    (once : (groups.flatMap fun group => members group.2).count object = 1)
    (listed : group ∈ groups) (compiled : present enabled group.1 = true)
    (member : object ∈ members group.2) (emitted : kept object = true) :
    ((groups.filter fun group => present enabled group.1).flatMap fun group =>
      (members group.2).filter kept).count object = 1 := by
  have fewer : ((groups.filter fun group => present enabled group.1).flatMap fun group =>
      (members group.2).filter kept).Sublist (groups.flatMap fun group => members group.2) :=
    (List.Sublist.flatMap List.filter_sublist _).trans
      (List.Sublist.flatMap_right _ fun _ _ => List.filter_sublist)
  have most := once ▸ fewer.count_le object
  have least : 0 < ((groups.filter fun group => present enabled group.1).flatMap fun group =>
      (members group.2).filter kept).count object := by
    rw [List.count_pos_iff, List.mem_flatMap]
    exact ⟨group, List.mem_filter.mpr ⟨listed, compiled⟩, List.mem_filter.mpr ⟨member, emitted⟩⟩
  omega

end Counting

section Positions

variable {τ α : Type} {objectOf : τ × Nat → Option α} {position : α → Nat} {nameOf : α → String}

/-- Objects that are made from different tags are different. -/
theorem collect_nodup (tags : List τ)
    (kept : ∀ tag object, objectOf tag = some object → position object = tag.2) :
    (sortByName nameOf (tags.zipIdx.filterMap objectOf)).Nodup := by
  have positions (indexed : List (τ × Nat)) :
      ((indexed.filterMap objectOf).map position).Sublist (indexed.map Prod.snd) := by
    induction indexed with
    | nil => exact List.Sublist.slnil
    | cons tag rest ih =>
      cases made : objectOf tag with
      | none =>
        rw [List.filterMap_cons_none made]
        exact ih.cons _
      | some object =>
        rw [List.filterMap_cons_some made, List.map_cons, List.map_cons, kept tag object made]
        exact ih.cons_cons _
  have ranged : (tags.zipIdx.map Prod.snd).Nodup := by
    rw [List.zipIdx_map_snd]
    exact List.nodup_range' _
  exact sortByName_perm.nodup_iff.mpr (ranged.sublist (positions _)).of_map

end Positions

/-- No two structs are the same object. -/
theorem collectStructs_nodup (registry : Registry) : (collectStructs registry).Nodup := by
  apply @collect_nodup _ _ _ Struct.position
  rintro ⟨tag, position⟩ object made
  dsimp only at made
  split at made
  · cases made
  split at made
  · cases made
  · cases made
    rfl

/-- No two functions are the same object. -/
theorem collectFunctions_nodup (registry : Registry) : (collectFunctions registry).Nodup := by
  apply @collect_nodup _ _ _ Function.position
  rintro ⟨tag, position⟩ object made
  dsimp only at made
  split at made
  · cases made
  split at made
  · cases made
  · cases made
    rfl

end XrTransport.CodeGeneration.SpecParser
