import Mathlib.Data.List.Basic
import Mathlib.Data.List.Induction
import Mathlib.Logic.Function.Basic

/-!
# Layers of functions

A table has a function for each name. A layer replaces the function of a name and saves the one
before in a variable, where it finds the function to call down to. If no two layers share a
variable, calls go through the layers of a name from the last to the first and end below them.
Layers that are added again never end.
-/
namespace XrTransport

universe u v w

/-- A layer over the function of a name. -/
structure Layer (ν : Type u) (φ : Type v) (α : Type w) where
  /-- The name. -/
  name : ν
  /-- The new function. -/
  function : φ
  /-- The variable that saves the old function. -/
  saves : α
  deriving DecidableEq

/-- A table, and the variables that layers save old functions in. -/
structure Layered (ν : Type u) (φ : Type v) (α : Type w) where
  /-- The function of each name. -/
  table : ν → Option φ
  /-- What each variable holds. -/
  saved : α → Option φ

/-- The functions of the layers on a name, the last first. -/
def layersOn {ν : Type u} {φ : Type v} {α : Type w} [DecidableEq ν] (layers : List (Layer ν φ α))
    (name : ν) : List φ :=
  ((layers.filter fun layer => layer.name = name).map Layer.function).reverse

section LayersOn

variable {ν : Type u} {φ : Type v} {α : Type w} [DecidableEq ν]

/-- A layer on a name is above the others. -/
theorem layersOn_concat (layers : List (Layer ν φ α)) (layer : Layer ν φ α) (name : ν) :
    layersOn (layers ++ [layer]) name =
      if layer.name = name then layer.function :: layersOn layers name
      else layersOn layers name := by
  rw [layersOn, List.filter_append, List.map_append, List.reverse_append]
  split
  case isTrue same =>
    rw [List.filter_cons_of_pos (by simpa using same)]
    rfl
  case isFalse other =>
    rw [List.filter_cons_of_neg (by simpa using other)]
    rfl

/-- Every function on a name is that of a layer on it. -/
theorem mem_layersOn {layers : List (Layer ν φ α)} {name : ν} {function : φ} :
    function ∈ layersOn layers name ↔
      ∃ layer ∈ layers, layer.name = name ∧ layer.function = function := by
  rw [layersOn, List.mem_reverse, List.mem_map]
  constructor
  · rintro ⟨layer, member, same⟩
    obtain ⟨within, named⟩ := List.mem_filter.mp member
    exact ⟨layer, within, of_decide_eq_true named, same⟩
  · rintro ⟨layer, within, named, same⟩
    exact ⟨layer, List.mem_filter.mpr ⟨within, decide_eq_true named⟩, same⟩

end LayersOn

namespace Layered

variable {ν : Type u} {φ : Type v} {α : Type w}

/-- Where a function finds the one to call down to, given the variable of each function. -/
def below (t : Layered ν φ α) (ownVariable : φ → Option α) (function : φ) : Option φ :=
  (ownVariable function).bind t.saved

/-- The functions that are called from one on, if each calls down. -/
inductive Descends (t : Layered ν φ α) (ownVariable : φ → Option α) : Option φ → List φ → Prop where
  /-- There is no function. -/
  | ends : Descends t ownVariable none []
  /-- A function calls the one below it. -/
  | calls {function : φ} {rest : List φ}
    (further : Descends t ownVariable (t.below ownVariable function) rest) :
    Descends t ownVariable (some function) (function :: rest)

/-- The function after a number of calls down. -/
def after (t : Layered ν φ α) (ownVariable : φ → Option α) (start : Option φ) : Nat → Option φ
  | 0 => start
  | count + 1 => (t.after ownVariable start count).bind (t.below ownVariable)

variable {t : Layered ν φ α} {layers : List (Layer ν φ α)} {layer : Layer ν φ α} {name : ν}
variable {ownVariable : φ → Option α} {start : Option φ} {path : List φ}

/-- After as many calls as there are functions on the way down nothing is called any more. -/
theorem Descends.after_length (descends : t.Descends ownVariable start path) :
    t.after ownVariable start path.length = none := by
  have shift : ∀ start count, t.after ownVariable (start.bind (t.below ownVariable)) count =
      t.after ownVariable start (count + 1) := by
    intro start count
    induction count with
    | zero => rfl
    | succ count ih =>
      rw [after, ih]
      rfl
  induction descends with
  | ends => rfl
  | @calls function rest further ih =>
    rw [List.length_cons, ← shift]
    exact ih

variable [DecidableEq ν] [DecidableEq α]

/-- Add a layer. -/
def add (t : Layered ν φ α) (layer : Layer ν φ α) : Layered ν φ α where
  table := Function.update t.table layer.name (some layer.function)
  saved := Function.update t.saved layer.saves (t.table layer.name)

/-- Add layers, the first first. -/
def addAll (t : Layered ν φ α) (layers : List (Layer ν φ α)) : Layered ν φ α := layers.foldl add t

/-- Layers are added one part after the other. -/
theorem addAll_append (t : Layered ν φ α) (first second : List (Layer ν φ α)) :
    t.addAll (first ++ second) = (t.addAll first).addAll second :=
  List.foldl_append

/-- The last layer is added last. -/
theorem addAll_concat (t : Layered ν φ α) (layers : List (Layer ν φ α)) (layer : Layer ν φ α) :
    t.addAll (layers ++ [layer]) = (t.addAll layers).add layer :=
  addAll_append t layers [layer]

/-- The function of a name is the last layer on it, or the one that was there. -/
theorem table_addAll (t : Layered ν φ α) (layers : List (Layer ν φ α)) (name : ν) :
    (t.addAll layers).table name = (layersOn layers name).head?.or (t.table name) := by
  induction layers using List.reverseRecOn with
  | nil => rfl
  | append_singleton layers layer ih =>
    rw [addAll_concat, layersOn_concat, add]
    dsimp only
    by_cases same : layer.name = name
    · rw [if_pos same, same, Function.update_self]
      rfl
    · rw [if_neg same, Function.update_of_ne (Ne.symm same)]
      exact ih

/-- A variable that no layer saves to keeps what it holds. -/
theorem saved_addAll {address : α} (free : address ∉ layers.map Layer.saves) :
    (t.addAll layers).saved address = t.saved address := by
  induction layers using List.reverseRecOn with
  | nil => rfl
  | append_singleton layers layer ih =>
    rw [List.map_append, List.mem_append, not_or] at free
    have other : address ≠ layer.saves := fun same => free.2 (List.mem_singleton.mpr same)
    rw [addAll_concat, add]
    dsimp only
    rw [Function.update_of_ne other]
    exact ih free.1

namespace Descends

/-- A way down does not change if a layer saves to a variable of no function on it. -/
theorem add (descends : t.Descends ownVariable start path)
    (free : ∀ function ∈ path, ownVariable function ≠ some layer.saves) :
    (t.add layer).Descends ownVariable start path := by
  induction descends with
  | ends => exact .ends
  | @calls function rest _ ih =>
    have same : (t.add layer).below ownVariable function = t.below ownVariable function := by
      rw [Layered.below, Layered.below]
      cases found : ownVariable function with
      | none => rfl
      | some address =>
        have other : address ≠ layer.saves := by
          intro same
          rw [same] at found
          exact free function List.mem_cons_self found
        exact Function.update_of_ne other _ _
    have further := ih fun function member => free function (List.mem_cons_of_mem _ member)
    rw [← same] at further
    exact .calls further

end Descends

/-- Calls go through the layers of a name from the last to the first, and then to the function that
was there, if the layers save to different variables. -/
theorem descends_addAll (distinct : (layers.map Layer.saves).Nodup)
    (owned : ∀ layer ∈ layers, ownVariable layer.function = some layer.saves)
    (bottom : ∀ name function, t.table name = some function → ownVariable function = none)
    (name : ν) :
    (t.addAll layers).Descends ownVariable ((t.addAll layers).table name)
      (layersOn layers name ++ (t.table name).toList) := by
  induction layers using List.reverseRecOn with
  | nil =>
    show t.Descends ownVariable (t.table name) (t.table name).toList
    cases found : t.table name with
    | none => exact .ends
    | some function =>
      have last : t.below ownVariable function = none := by
        rw [below, bottom name function found]
        rfl
      have nothing : t.Descends ownVariable (t.below ownVariable function) [] := by
        rw [last]
        exact .ends
      exact .calls nothing
  | append_singleton layers layer ih =>
    rw [List.map_append, List.nodup_append] at distinct
    have earlier := ih distinct.1 fun other member => owned other (List.mem_append_left _ member)
    have free : ∀ function ∈ layersOn layers name ++ (t.table name).toList,
        ownVariable function ≠ some layer.saves := by
      intro function member
      rcases List.mem_append.mp member with above | stub
      · obtain ⟨other, within, _, same⟩ := mem_layersOn.mp above
        rw [← same, owned other (List.mem_append_left _ within)]
        intro equal
        exact distinct.2.2 _ (List.mem_map_of_mem within) _ List.mem_cons_self
          (Option.some.inj equal)
      · rw [bottom name function (Option.mem_toList.mp stub)]
        exact (Option.some_ne_none _).symm
    have kept := earlier.add free
    rw [addAll_concat, layersOn_concat]
    by_cases same : layer.name = name
    · have top : ((t.addAll layers).add layer).table name = some layer.function := by
        rw [add, same]
        exact Function.update_self _ _ _
      have next : ((t.addAll layers).add layer).below ownVariable layer.function =
          (t.addAll layers).table name := by
        rw [below, owned layer List.mem_concat_self, add, same]
        exact Function.update_self _ _ _
      rw [if_pos same, top]
      rw [← next] at kept
      exact .calls kept
    · have top : ((t.addAll layers).add layer).table name = (t.addAll layers).table name := by
        exact Function.update_of_ne (Ne.symm same) _ _
      rw [if_neg same, top]
      exact kept

/-- A layer calls down to the function that its name had when it was added last. -/
theorem below_of_mem (distinct : (layers.map Layer.saves).Nodup)
    (owned : ∀ layer ∈ layers, ownVariable layer.function = some layer.saves)
    (member : layer ∈ layers) : ∃ before after, layers = before ++ layer :: after ∧
      (t.addAll layers).below ownVariable layer.function = (t.addAll before).table layer.name := by
  obtain ⟨before, after, split⟩ := List.append_of_mem member
  have free : layer.saves ∉ after.map Layer.saves := by
    rw [split, List.map_append, List.nodup_append, List.map_cons, List.nodup_cons] at distinct
    exact distinct.2.1.1
  refine ⟨before, after, split, ?_⟩
  rw [below, owned layer member, split, addAll_append]
  show (((t.addAll before).add layer).addAll after).saved layer.saves = _
  rw [saved_addAll free]
  exact Function.update_self _ _ _

/-- Layers that were added before never end when they are added again: after any number of calls
from their name on, the next function is still that of a layer on the name. -/
theorem after_addAll_again {earlier : List (Layer ν φ α)}
    (distinct : (layers.map Layer.saves).Nodup)
    (owned : ∀ layer ∈ layers, ownVariable layer.function = some layer.saves)
    (again : ∀ layer, layer ∈ earlier ↔ layer ∈ layers) (member : layer ∈ layers) (count : Nat) :
    ∃ other ∈ layers, other.name = layer.name ∧
      (t.addAll (earlier ++ layers)).after ownVariable
        ((t.addAll (earlier ++ layers)).table layer.name) count = some other.function := by
  have top : ∀ before name, (∀ layer ∈ before, layer ∈ layers) →
      (∃ layer ∈ earlier, layer.name = name) →
      ∃ other ∈ layers, other.name = name ∧
        ((t.addAll earlier).addAll before).table name = some other.function := by
    intro before name within found
    obtain ⟨layer, present, named⟩ := found
    rw [← addAll_append, table_addAll]
    have there : layer.function ∈ layersOn (earlier ++ before) name :=
      mem_layersOn.mpr ⟨layer, List.mem_append_left _ present, named, rfl⟩
    cases on : layersOn (earlier ++ before) name with
    | nil =>
      rw [on] at there
      exact absurd there List.not_mem_nil
    | cons function rest =>
      have head : function ∈ layersOn (earlier ++ before) name := by
        rw [on]
        exact List.mem_cons_self
      obtain ⟨other, inside, same, gives⟩ := mem_layersOn.mp head
      have known : other ∈ layers := by
        rcases List.mem_append.mp inside with old | new
        · exact (again other).mp old
        · exact within other new
      rw [← gives]
      exact ⟨other, known, same, rfl⟩
  rw [addAll_append]
  induction count with
  | zero =>
    exact top layers layer.name (fun _ inside => inside) ⟨layer, (again layer).mpr member, rfl⟩
  | succ count ih =>
    obtain ⟨current, inside, named, reached⟩ := ih
    obtain ⟨before, rest, split, next⟩ :=
      below_of_mem (t := t.addAll earlier) distinct owned inside
    rw [after, reached]
    show ∃ other ∈ layers, other.name = layer.name ∧
      ((t.addAll earlier).addAll layers).below ownVariable current.function = some other.function
    rw [next, named]
    refine top before layer.name (fun other there => ?_) ⟨layer, (again layer).mpr member, rfl⟩
    rw [split]
    exact List.mem_append_left _ there

end Layered

end XrTransport
