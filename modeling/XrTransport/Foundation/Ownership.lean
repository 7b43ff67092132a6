import Mathlib.Data.List.AList
import Mathlib.Data.List.Nodup

/-!
# Created objects and their owners

A ledger records which objects have been created and destroyed. It is balanced for a list of owned
objects when everything created has either been destroyed or is owned, which says that exactly the
owned objects are live and that the others have been destroyed once. The owners are the entries of a
registry, a map whose `emplace` keeps the entry that a key has. Two registries are related when the
values of one name their parents in the other and those list them. A holder owns one object at a
time: replacing the object destroys it, and a reference to it does not lead to the new one.
-/
namespace XrTransport

universe u v w

/-- No names count no objects. -/
theorem names_nil {κ : Type u} :
    ([] : List (κ × Nat)).map Prod.snd = (List.range ([] : List (κ × Nat)).length).reverse :=
  rfl

/-- The objects of kinds `κ` created and destroyed so far, the last first. An object is named by the
number of objects that were created before it. -/
structure Ledger (κ : Type u) where
  /-- The objects created. -/
  created : List (κ × Nat) := []
  /-- The objects destroyed. -/
  destroyed : List (κ × Nat) := []
  /-- The names count the objects. -/
  named : created.map Prod.snd = (List.range created.length).reverse := by exact names_nil

namespace Ledger

variable {κ : Type u} {ledger : Ledger κ} {owned rest : List (κ × Nat)}

/-- The name of the next object. -/
def next (ledger : Ledger κ) : Nat := ledger.created.length

/-- Create an object. -/
def create (ledger : Ledger κ) (kind : κ) : Ledger κ where
  created := (kind, ledger.next) :: ledger.created
  destroyed := ledger.destroyed
  named := by
    rw [List.map_cons, ledger.named, List.length_cons, List.range_succ, List.reverse_append]
    rfl

/-- Destroy objects. -/
def destroy (ledger : Ledger κ) (objects : List (κ × Nat)) : Ledger κ :=
  { ledger with destroyed := objects ++ ledger.destroyed }

/-- No object is created twice. -/
theorem created_nodup (ledger : Ledger κ) : ledger.created.Nodup := by
  apply List.Nodup.of_map Prod.snd
  rw [ledger.named]
  exact List.nodup_reverse.mpr List.nodup_range

/-- The live objects are exactly the owned ones, none has two owners, and each of the others has
been destroyed once. -/
structure Settled (ledger : Ledger κ) (owned : List (κ × Nat)) : Prop where
  /-- What is owned is created and not destroyed, and nothing else is. -/
  live : ∀ object, object ∈ owned ↔ object ∈ ledger.created ∧ object ∉ ledger.destroyed
  /-- Only what was created is destroyed. -/
  known : ∀ object ∈ ledger.destroyed, object ∈ ledger.created
  /-- Nothing is destroyed twice. -/
  once : ledger.destroyed.Nodup
  /-- Nothing is owned twice. -/
  single : owned.Nodup

/-- What has been created is what has been destroyed and what is owned. -/
def Balanced (ledger : Ledger κ) (owned : List (κ × Nat)) : Prop :=
  ledger.created.Perm (ledger.destroyed ++ owned)

/-- A ledger is settled exactly if it is balanced. -/
theorem settled_iff : ledger.Settled owned ↔ ledger.Balanced owned := by
  constructor
  · intro settled
    have disjoint : (ledger.destroyed ++ owned).Nodup := by
      refine List.Nodup.append settled.once settled.single fun object destroyed own => ?_
      exact ((settled.live object).mp own).2 destroyed
    refine (List.perm_ext_iff_of_nodup ledger.created_nodup disjoint).mpr fun object => ?_
    rw [List.mem_append, settled.live]
    constructor
    · intro created
      by_cases destroyed : object ∈ ledger.destroyed
      · exact .inl destroyed
      · exact .inr ⟨created, destroyed⟩
    · rintro (destroyed | live)
      · exact settled.known object destroyed
      · exact live.1
  · intro balanced
    have disjoint := balanced.nodup ledger.created_nodup
    refine ⟨fun object => ?_, fun object destroyed => ?_, ?_, ?_⟩
    · rw [balanced.mem_iff, List.mem_append]
      constructor
      · intro own
        exact ⟨.inr own, fun destroyed => List.disjoint_of_nodup_append disjoint destroyed own⟩
      · rintro ⟨destroyed | own, live⟩
        · exact absurd destroyed live
        · exact own
    · exact balanced.mem_iff.mpr (List.mem_append_left _ destroyed)
    · exact List.Nodup.of_append_left disjoint
    · exact List.Nodup.of_append_right disjoint

namespace Balanced

/-- The order of the owned objects does not matter. -/
theorem perm (balanced : ledger.Balanced owned) (same : owned.Perm rest) :
    ledger.Balanced rest :=
  balanced.trans (same.append_left _)

/-- A new object has to be owned. -/
theorem create (balanced : ledger.Balanced owned) (kind : κ) :
    (ledger.create kind).Balanced ((kind, ledger.next) :: owned) :=
  (balanced.cons _).trans List.perm_middle.symm

/-- Owned objects that are destroyed are not owned any more. -/
theorem destroy {objects : List (κ × Nat)} (balanced : ledger.Balanced (objects ++ rest)) :
    (ledger.destroy objects).Balanced rest := by
  have swapped : (ledger.destroyed ++ (objects ++ rest)).Perm
      (objects ++ ledger.destroyed ++ rest) := by
    rw [← List.append_assoc]
    exact List.perm_append_comm.append_right rest
  exact balanced.trans swapped

/-- The owned objects can be counted. -/
theorem length (balanced : ledger.Balanced owned) :
    ledger.created.length = ledger.destroyed.length + owned.length := by
  rw [balanced.length_eq, List.length_append]

/-- What is owned beyond a balance is nothing. -/
theorem eq_nil {extra : List (κ × Nat)} (more : ledger.Balanced (extra ++ owned))
    (balanced : ledger.Balanced owned) : extra = [] := by
  have counted := more.length
  rw [balanced.length, List.length_append] at counted
  exact List.length_eq_zero_iff.mp (by omega)

end Balanced

end Ledger

/-- A map from keys to values, each with at most one. -/
abbrev Registry (α : Type u) (β : Type v) := AList fun _ : α => β

namespace Registry

variable {α : Type u} {β : Type v} {ο : Type w} [DecidableEq α] {registry : Registry α β}
  {key other : α} {value : β}

/-- Give a key a value unless it has one. -/
def emplace (registry : Registry α β) (key : α) (value : β) : Registry α β :=
  match registry.lookup key with
  | some _ => registry
  | none => registry.insert key value

/-- A key without a value gets the new one. -/
theorem emplace_of_none (unregistered : registry.lookup key = none) :
    registry.emplace key value = registry.insert key value := by
  rw [emplace, unregistered]

/-- A key with a value keeps it. -/
theorem emplace_of_some {old : β} (registered : registry.lookup key = some old) :
    registry.emplace key value = registry := by
  rw [emplace, registered]

/-- The value of a key after it was given one. -/
theorem lookup_emplace_self :
    (registry.emplace key value).lookup key = some ((registry.lookup key).getD value) := by
  cases found : registry.lookup key with
  | none =>
    rw [emplace_of_none found]
    exact AList.lookup_insert registry
  | some old =>
    rw [emplace_of_some found]
    exact found

/-- The other keys are as before. -/
theorem lookup_emplace_ne (different : other ≠ key) :
    (registry.emplace key value).lookup other = registry.lookup other := by
  cases found : registry.lookup key with
  | none =>
    rw [emplace_of_none found]
    exact AList.lookup_insert_ne different
  | some old => rw [emplace_of_some found]

/-- What the entries own. -/
def owned (objects : β → List ο) (registry : Registry α β) : List ο :=
  registry.entries.flatMap fun entry => objects entry.2

variable {objects : β → List ο}

/-- An object is owned by the entry of a key. -/
theorem mem_owned {object : ο} :
    object ∈ registry.owned objects ↔
      ∃ key value, registry.lookup key = some value ∧ object ∈ objects value := by
  rw [owned, List.mem_flatMap]
  constructor
  · rintro ⟨⟨key, value⟩, entry, own⟩
    exact ⟨key, value, AList.mem_lookup_iff.mpr entry, own⟩
  · rintro ⟨key, value, found, own⟩
    exact ⟨⟨key, value⟩, AList.mem_lookup_iff.mp found, own⟩

/-- A new entry adds what it owns. -/
theorem owned_insert (unregistered : registry.lookup key = none) :
    Registry.owned objects (registry.insert key value) =
      objects value ++ registry.owned objects := by
  rw [owned, AList.entries_insert_of_notMem (AList.lookup_eq_none.mp unregistered),
    List.flatMap_cons]
  rfl

/-- An entry that is erased takes along what it owns. -/
theorem owned_erase (registered : registry.lookup key = some value) :
    (registry.owned objects).Perm
      (objects value ++ Registry.owned objects (registry.erase key)) := by
  have present : key ∈ registry.entries.keys :=
    AList.lookup_isSome.mp (by rw [registered]; rfl)
  obtain ⟨found, before, after, absent, split, erased⟩ := List.exists_of_kerase present
  have same : found = value := by
    have entry : (⟨key, found⟩ : Sigma fun _ : α => β) ∈ registry.entries := by
      rw [split]
      simp
    have looked : registry.lookup key = some found := AList.mem_lookup_iff.mpr entry
    exact Option.some.inj (looked.symm.trans registered)
  subst same
  have remaining : (AList.erase key registry).entries = before ++ after := erased
  rw [owned, owned, remaining, split, List.flatMap_append, List.flatMap_append,
    List.flatMap_cons]
  exact List.perm_append_comm_assoc _ _ _

end Registry

section Related

variable {α : Type u} {β : Type v} {γ : Type w} [DecidableEq α] {parentOf : γ → α}
  {lists : β → List α} {parents : Registry α β} {children : Registry α γ}

/-- Parents list their children, and children name their parents. -/
structure Related (parentOf : γ → α) (lists : β → List α) (parents : Registry α β)
    (children : Registry α γ) : Prop where
  /-- The parent of a registered child is registered and lists it. -/
  named : ∀ child value, children.lookup child = some value →
    ∃ parent, parents.lookup (parentOf value) = some parent ∧ child ∈ lists parent
  /-- What a registered parent lists is registered with that parent. -/
  listed : ∀ key parent, parents.lookup key = some parent → ∀ child ∈ lists parent,
    ∃ value, children.lookup child = some value ∧ parentOf value = key

namespace Related

variable {child : α} {value : γ} {parent parent' : β}

/-- A new child is listed by its parent. -/
theorem adopt (related : Related parentOf lists parents children)
    (found : parents.lookup (parentOf value) = some parent)
    (unregistered : children.lookup child = none)
    (listing : ∀ other, other ∈ lists parent' ↔ other = child ∨ other ∈ lists parent) :
    Related parentOf lists (parents.insert (parentOf value) parent')
      (children.insert child value) := by
  constructor
  · intro other kept registered
    by_cases new : other = child
    · subst new
      rw [AList.lookup_insert] at registered
      obtain rfl := Option.some.inj registered
      exact ⟨parent', AList.lookup_insert _, (listing _).mpr (.inl rfl)⟩
    · rw [AList.lookup_insert_ne new] at registered
      obtain ⟨before, present, member⟩ := related.named other kept registered
      by_cases same : parentOf kept = parentOf value
      · rw [same, found] at present
        obtain rfl := Option.some.inj present
        refine ⟨parent', ?_, (listing _).mpr (.inr member)⟩
        rw [same]
        exact AList.lookup_insert _
      · exact ⟨before, (AList.lookup_insert_ne same).trans present, member⟩
  · intro key kept registered other member
    by_cases new : other = child
    · subst new
      refine ⟨value, AList.lookup_insert _, ?_⟩
      by_contra different
      rw [AList.lookup_insert_ne (Ne.symm different)] at registered
      obtain ⟨old, looked, -⟩ := related.listed key kept registered _ member
      rw [unregistered] at looked
      cases looked
    · rw [AList.lookup_insert_ne new]
      by_cases same : key = parentOf value
      · subst same
        have kept_eq : some parent' = some kept := (AList.lookup_insert _).symm.trans registered
        obtain rfl := Option.some.inj kept_eq
        exact related.listed _ parent found other (((listing _).mp member).resolve_left new)
      · rw [AList.lookup_insert_ne same] at registered
        exact related.listed key kept registered other member

/-- An erased child is not listed any more. -/
theorem disown (related : Related parentOf lists parents children)
    (registered : children.lookup child = some value)
    (found : parents.lookup (parentOf value) = some parent)
    (listing : ∀ other, other ∈ lists parent' ↔ other ∈ lists parent ∧ other ≠ child) :
    Related parentOf lists (parents.insert (parentOf value) parent') (children.erase child) := by
  constructor
  · intro other kept present
    by_cases erased : other = child
    · subst erased
      rw [AList.lookup_erase] at present
      cases present
    · have before : children.lookup other = some kept :=
        (AList.lookup_erase_ne erased).symm.trans present
      obtain ⟨old, looked, member⟩ := related.named other kept before
      by_cases same : parentOf kept = parentOf value
      · rw [same, found] at looked
        obtain rfl := Option.some.inj looked
        refine ⟨parent', ?_, (listing _).mpr ⟨member, erased⟩⟩
        rw [same]
        exact AList.lookup_insert _
      · exact ⟨old, (AList.lookup_insert_ne same).trans looked, member⟩
  · intro key kept present other member
    have before : ∃ old, parents.lookup key = some old ∧ other ∈ lists old ∧
        (key = parentOf value → other ≠ child) := by
      by_cases same : key = parentOf value
      · subst same
        have kept_eq : some parent' = some kept := (AList.lookup_insert _).symm.trans present
        obtain rfl := Option.some.inj kept_eq
        obtain ⟨listed, different⟩ := (listing _).mp member
        exact ⟨parent, found, listed, fun _ => different⟩
      · rw [AList.lookup_insert_ne same] at present
        exact ⟨kept, present, member, fun equal => absurd equal same⟩
    obtain ⟨old, looked, listed, other_ne⟩ := before
    obtain ⟨found_value, there, named⟩ := related.listed key old looked other listed
    refine ⟨found_value, ?_, named⟩
    have different : other ≠ child := by
      rintro rfl
      rw [registered] at there
      obtain rfl := Option.some.inj there
      exact other_ne named.symm rfl
    exact (AList.lookup_erase_ne different).trans there

/-- A new parent that lists nothing changes nothing. -/
theorem emplace (related : Related parentOf lists parents children) {key : α}
    (childless : lists parent = []) :
    Related parentOf lists (parents.emplace key parent) children := by
  constructor
  · intro child value registered
    obtain ⟨old, looked, member⟩ := related.named child value registered
    by_cases same : parentOf value = key
    · refine ⟨old, ?_, member⟩
      rw [same] at looked ⊢
      rw [Registry.lookup_emplace_self, looked]
      rfl
    · exact ⟨old, (Registry.lookup_emplace_ne same).trans looked, member⟩
  · intro other kept looked child member
    by_cases same : other = key
    · subst same
      rw [Registry.lookup_emplace_self] at looked
      obtain rfl := Option.some.inj looked
      cases old : parents.lookup other with
      | none =>
        rw [old, Option.getD_none, childless] at member
        cases member
      | some before =>
        rw [old] at member
        exact related.listed other before old child member
    · rw [Registry.lookup_emplace_ne same] at looked
      exact related.listed other kept looked child member

end Related

end Related

/-- The owner of one object at a time. A reference to an object is its number. -/
structure Holder (α : Type u) where
  /-- The object. -/
  object : α
  /-- Its number. -/
  serial : Nat := 0
deriving DecidableEq, Repr

namespace Holder

variable {α : Type u} {holder : Holder α} {reference : Nat}

/-- Another object takes the place of the old one, which is destroyed. -/
def replace (holder : Holder α) (object : α) : Holder α := ⟨object, holder.serial + 1⟩

/-- The object that a reference leads to, unless that has been destroyed. -/
def deref (holder : Holder α) (reference : Nat) : Option α :=
  if reference = holder.serial then some holder.object else none

/-- A reference leads to an object exactly if it is a reference to the one that is held. -/
theorem deref_eq_some {object : α} :
    holder.deref reference = some object ↔ reference = holder.serial ∧ holder.object = object := by
  rw [deref]
  split
  next same => rw [Option.some_inj, and_iff_right same]
  next different => exact iff_of_false (by simp) fun both => different both.1

/-- No reference survives the replacement of the object it leads to. -/
theorem deref_replace {object : α} (alive : holder.deref reference = some object) (other : α) :
    (holder.replace other).deref reference = none := by
  obtain ⟨rfl, -⟩ := deref_eq_some.mp alive
  exact if_neg (Nat.ne_of_lt (Nat.lt_succ_self holder.serial))

end Holder

end XrTransport
