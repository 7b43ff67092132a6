import XrTransport.CodeGeneration.ExtensionGroups

/-!
# Whether the groups partition the specification

The generated code defines a struct and lists it in a table once for each time it is in a group that
is compiled in.
-/
namespace XrTransport.CodeGeneration.SpecParser

/-- The groups partition some structs and functions, and what is emitted of the groups that are
compiled in is emitted once. -/
structure Partitions (structs : List Struct) (functions : List Function) (groups : Groups) :
    Prop where
  /-- Every struct is in one group, once. -/
  structs : ∀ struct ∈ structs, (groups.flatMap fun group => group.2.structs).count struct = 1
  /-- Every function is. -/
  functions : ∀ function ∈ functions,
    (groups.flatMap fun group => group.2.functions).count function = 1
  /-- A struct of a group that is compiled in is defined once and, if it has a structure type, has
  one entry in a lookup table. -/
  definitions : ∀ enabled xrStructsOnly, ∀ group ∈ groups, present enabled group.1 = true →
    ∀ struct ∈ group.2.structs, (!xrStructsOnly || struct.xrType.isSome) = true →
      (forGroupedStructs enabled xrStructsOnly groups).count struct = 1
  /-- A function of such a group has one entry in a dispatch table. -/
  entries : ∀ enabled, ∀ group ∈ groups, present enabled group.1 = true →
    ∀ function ∈ group.2.functions, (forGroupedFunctions enabled groups).count function = 1

/-- No extension tag mentions an object, or those whose groups stay mention it once in all. -/
def MentionedOnce {α : Type} [DecidableEq α] (registry : Registry)
    (mentions : ExtensionTag → List α) (object : α) : Prop :=
  (∀ tag ∈ registry.extensions, object ∉ mentions tag) ∨
    ((standingTags (collectStructs registry) (collectFunctions registry)
      registry.extensions).flatMap mentions).count object = 1

/-- A struct that an extension tag mentions has been collected. -/
theorem mem_of_mentionedStructs {structs : List Struct} {tag : ExtensionTag} {struct : Struct}
    (mentioned : struct ∈ mentionedStructs structs tag) : struct ∈ structs := by
  rw [mentionedStructs, List.mem_append, List.mem_filterMap, List.mem_filterMap] at mentioned
  rcases mentioned with ⟨name, _, found⟩ | ⟨enum, _, found⟩
  · exact List.mem_of_find?_eq_some found
  · split at found
    · exact List.mem_of_find?_eq_some found
    · cases found

/-- So has a function. -/
theorem mem_of_mentionedFunctions {functions : List Function} {tag : ExtensionTag}
    {function : Function} (mentioned : function ∈ mentionedFunctions functions tag) :
    function ∈ functions := by
  obtain ⟨name, _, found⟩ := List.mem_filterMap.mp mentioned
  exact List.mem_of_find?_eq_some found

/-- A group holds nothing but what has been collected. -/
theorem mem_of_group {registry : Registry} {structs : List Struct} {functions : List Function}
    {group : Option String × XrExtension}
    (listed : group ∈ collectExtensions registry structs functions) :
    (∀ struct ∈ group.2.structs, struct ∈ structs) ∧
      ∀ function ∈ group.2.functions, function ∈ functions := by
  rw [collectExtensions_perm.mem_iff, List.mem_append] at listed
  rcases listed with extension | core
  · obtain ⟨entry, _, rfl⟩ := List.mem_map.mp extension
    constructor
    · exact fun struct member => mem_of_mentionedStructs (sortByName_perm.mem_iff.mp member)
    · exact fun function member => mem_of_mentionedFunctions (sortByName_perm.mem_iff.mp member)
  · obtain rfl := List.mem_singleton.mp core
    constructor
    · exact fun struct member => List.mem_of_mem_filter (sortByName_perm.mem_iff.mp member)
    · exact fun function member => List.mem_of_mem_filter (sortByName_perm.mem_iff.mp member)

/-- For every registry: the groups partition its structs and functions, and the generated code has
everything once whichever extensions are compiled in, exactly if no struct and no function is
mentioned twice: neither by its name and its structure type, nor in two `require` tags, nor by two
extensions, nor only by tags whose groups are replaced by those of later tags of the same name. -/
theorem groups_partition_iff (registry : Registry) :
    Partitions (collectStructs registry) (collectFunctions registry) (parseGroups registry) ↔
      (∀ struct ∈ collectStructs registry,
        MentionedOnce registry (mentionedStructs (collectStructs registry)) struct) ∧
      ∀ function ∈ collectFunctions registry,
        MentionedOnce registry (mentionedFunctions (collectFunctions registry)) function := by
  have structOnce {struct : Struct} (member : struct ∈ collectStructs registry) :=
    @count_groups_eq_one_iff _ _ _ (collectFunctions registry) registry XrExtension.structs
      (mentionedStructs (collectStructs registry)) _ (fun _ => sortByName_perm) sortByName_perm
      (collectStructs_nodup registry) struct member
  have functionOnce {function : Function} (member : function ∈ collectFunctions registry) :=
    @count_groups_eq_one_iff _ _ (collectStructs registry) _ registry XrExtension.functions
      (mentionedFunctions (collectFunctions registry)) _ (fun _ => sortByName_perm)
      sortByName_perm (collectFunctions_nodup registry) function member
  constructor
  · intro partitions
    constructor
    · exact fun struct member => (structOnce member).mp (partitions.structs struct member)
    · exact fun function member => (functionOnce member).mp (partitions.functions function member)
  · rintro ⟨structs, functions⟩
    have structOne (struct : Struct) (member : struct ∈ collectStructs registry) :=
      (structOnce member).mpr (structs struct member)
    have functionOne (function : Function) (member : function ∈ collectFunctions registry) :=
      (functionOnce member).mpr (functions function member)
    constructor
    · exact structOne
    · exact functionOne
    · intro enabled xrStructsOnly group listed compiled struct member emitted
      have once := structOne struct ((mem_of_group listed).1 struct member)
      exact count_emitted once listed compiled member emitted
    · intro enabled group listed compiled function member
      have once := functionOne function ((mem_of_group listed).2 function member)
      have all : forGroupedFunctions enabled (parseGroups registry) =
          ((parseGroups registry).filter fun group => present enabled group.1).flatMap fun group =>
            group.2.functions.filter fun _ => true := by
        simp [forGroupedFunctions]
      rw [all]
      exact count_emitted once listed compiled member rfl

/-- The registry's entries about `XR_KHR_android_create_instance`. -/
def androidCreateInstance : Registry where
  types := [⟨"XrInstanceCreateInfoAndroidKHR", none,
    [⟨"type", some "XR_TYPE_INSTANCE_CREATE_INFO_ANDROID_KHR"⟩, ⟨"next", none⟩]⟩]
  commands := []
  extensions := [⟨"XR_KHR_android_create_instance", 9,
    [{ types := ["XrInstanceCreateInfoAndroidKHR"]
       enums := [⟨"XR_TYPE_INSTANCE_CREATE_INFO_ANDROID_KHR", some "XrStructureType"⟩] }]⟩]

/-- The struct is in the group of its extension twice. -/
theorem android_struct_grouped_twice :
    ¬∀ registry : Registry,
      Partitions (collectStructs registry) (collectFunctions registry)
        (parseGroups registry) := by
  intro always
  have once := (always androidCreateInstance).structs
    ⟨0, "XrInstanceCreateInfoAndroidKHR", some "XR_TYPE_INSTANCE_CREATE_INFO_ANDROID_KHR"⟩
    (by decide)
  exact absurd once (by decide)

end XrTransport.CodeGeneration.SpecParser
