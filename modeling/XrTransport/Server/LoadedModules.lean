import XrTransport.Foundation.Places
import XrTransport.Foundation.Transition

/-!
# Modules of the server and their libraries

`LoadedModule` of `module.h` owns a module and the handle of the library that the module comes from.
Constructors, moves and the destructor may follow each other in any order, as a vector of modules
uses them. The handle is given back once, unless an object with a handle is moved by assignment,
which leaves the handle in both objects. The module is destroyed once in any case, and always after
the handle of its library has been given back.
-/
namespace XrTransport.Server

/-- A module that has been created. -/
inductive ServerModule where
  /-- By the library behind a handle. -/
  | ofLibrary (handle : Nat)
  /-- By code that is linked statically. -/
  | builtIn (number : Nat)
  deriving DecidableEq

/-- `LoadedModule`. -/
structure LoadedModule where
  /-- `handle`. -/
  handle : Option Nat
  /-- `module`. -/
  module : Option ServerModule
  deriving DecidableEq

/-- What happens to libraries and modules in the end. -/
inductive Effect where
  /-- `MODULE_UNLOAD` of a handle. -/
  | unloaded (handle : Nat)
  /-- The destructor of a module runs. -/
  | destroyed (module : ServerModule)
  deriving DecidableEq

/-- The objects, and what has happened so far. -/
structure Modules where
  /-- The objects. -/
  objects : Places LoadedModule
  /-- How many handles `MODULE_LOAD` has returned. -/
  loads : Nat
  /-- The modules that were created. -/
  created : List ServerModule
  /-- What has happened, the first first. -/
  effects : List Effect
  deriving DecidableEq

/-- What is done with the objects. -/
inductive ModuleEvent where
  /-- The constructor for a library, and whether its entry point returns a module. -/
  | load (enabled : Bool)
  /-- The constructor for a module that is linked statically. -/
  | adopt (number : Nat)
  /-- The move constructor. -/
  | moveConstruct (source : Nat)
  /-- The move assignment. -/
  | moveAssign (target source : Nat)
  /-- The destructor. -/
  | destroy (target : Nat)
  deriving DecidableEq

namespace Effect

/-- The handle that was given back. -/
def handle : Effect → Option Nat
  | .unloaded handle => some handle
  | .destroyed _ => none

/-- The module that was destroyed. -/
def module : Effect → Option ServerModule
  | .unloaded _ => none
  | .destroyed module => some module

end Effect

namespace LoadedModule

/-- What an object gives up: the handle first, and then the module. -/
def givesUp (object : LoadedModule) : List Effect :=
  (object.handle.map Effect.unloaded).toList ++ (object.module.map Effect.destroyed).toList

/-- What is left of an object that was moved by construction. -/
def moved : LoadedModule := ⟨none, none⟩

end LoadedModule

namespace Modules

/-- The objects, from none on. -/
def system : System Modules ModuleEvent where
  init := ⟨⟨[]⟩, 0, [], []⟩
  step s
    | .load enabled =>
      let module := if enabled then some (ServerModule.ofLibrary s.loads) else none
      some { s with
        objects := s.objects.add ⟨some s.loads, module⟩
        loads := s.loads + 1
        created := s.created ++ module.toList }
    | .adopt number =>
      some { s with
        objects := s.objects.add ⟨none, some (.builtIn number)⟩
        created := s.created ++ [.builtIn number] }
    | .moveConstruct source =>
      (s.objects.get source).map fun other =>
        { s with objects := (s.objects.put source (some .moved)).add other }
    | .moveAssign target source =>
      (s.objects.get target).bind fun object => (s.objects.get source).map fun other =>
        if target = source then s
        else
          { s with
            objects := (s.objects.put target (some other)).put source
              (some { other with module := none })
            effects := s.effects ++ object.givesUp }
    | .destroy target =>
      (s.objects.get target).map fun object =>
        { s with
          objects := s.objects.put target none
          effects := s.effects ++ object.givesUp }

/-- The handles that objects hold. -/
def held (s : Modules) : List Nat := s.objects.held fun object => object.handle.toList

/-- The handles that were given back. -/
def unloaded (s : Modules) : List Nat := s.effects.filterMap Effect.handle

/-- The modules that objects own. -/
def owned (s : Modules) : List ServerModule := s.objects.held fun object => object.module.toList

/-- The modules that were destroyed. -/
def destroyed (s : Modules) : List ServerModule := s.effects.filterMap Effect.module

/-- Every handle is held by one object or was given back once. -/
def HandlesOnce (s : Modules) : Prop := (s.unloaded ++ s.held).Perm (List.range s.loads)

/-- Every module is owned by one object or was destroyed once. -/
def ModulesOnce (s : Modules) : Prop := (s.destroyed ++ s.owned).Perm s.created

/-- No object with a handle is moved by assignment. -/
def allowed (s : Modules) : ModuleEvent → Prop
  | .moveAssign target source =>
    target = source ∨ ((s.objects.get source).bind LoadedModule.handle).isNone
  | _ => True

/-- The handles that are given up by an object. -/
theorem unloaded_givesUp (object : LoadedModule) :
    object.givesUp.filterMap Effect.handle = object.handle.toList := by
  rcases object with ⟨_ | handle, _ | module⟩ <;> rfl

/-- The modules that are given up by an object. -/
theorem destroyed_givesUp (object : LoadedModule) :
    object.givesUp.filterMap Effect.module = object.module.toList := by
  rcases object with ⟨_ | handle, _ | module⟩ <;> rfl

/-- What an event adds to what is held and owned: what is created, and the handle that stays in an
object that is moved by assignment. -/
def adds (s : Modules) : ModuleEvent → LoadedModule
  | .load enabled => ⟨some s.loads, if enabled then some (.ofLibrary s.loads) else none⟩
  | .adopt number => ⟨none, some (.builtIn number)⟩
  | .moveAssign target source =>
    if target = source then .moved else ⟨(s.objects.get source).bind LoadedModule.handle, none⟩
  | .moveConstruct _ => .moved
  | .destroy _ => .moved

/-- What an object gives up it no longer holds, so that only what is added changes the total. -/
theorem count_step {ρ : Type} [DecidableEq ρ] (holds : LoadedModule → List ρ)
    {gone : Effect → Option ρ}
    (given : ∀ object, object.givesUp.filterMap gone = holds object)
    (empty : holds .moved = []) {s s' : Modules} {event : ModuleEvent}
    (step : system.step s event = some s') (resource : ρ) :
    (s'.effects.filterMap gone).count resource + (s'.objects.held holds).count resource =
      (s.effects.filterMap gone).count resource + (s.objects.held holds).count resource +
        (holds (s.adds event)).count resource := by
  have none : (holds .moved).count resource = 0 := by
    rw [empty]
    rfl
  cases event with
  | load enabled =>
    obtain rfl := Option.some.inj step
    dsimp only
    rw [Places.count_held_add, adds]
    omega
  | adopt number =>
    obtain rfl := Option.some.inj step
    dsimp only
    rw [Places.count_held_add, adds]
    omega
  | moveConstruct source =>
    obtain ⟨other, found, same⟩ := Option.map_eq_some_iff.mp step
    obtain rfl := same
    have replaced := Places.count_held_put holds found (some .moved) resource
    have moved : Places.heldBy holds (some .moved) = holds .moved := rfl
    rw [moved] at replaced
    dsimp only
    rw [Places.count_held_add, adds]
    omega
  | moveAssign target source =>
    obtain ⟨object, found, step⟩ := Option.bind_eq_some_iff.mp step
    obtain ⟨other, found', same⟩ := Option.map_eq_some_iff.mp step
    rw [adds]
    by_cases self : target = source
    · rw [if_pos self] at same
      obtain rfl := same
      rw [if_pos self]
      omega
    · rw [if_neg self] at same
      obtain rfl := same
      have still : (s.objects.put target (some other)).get source = some other := by
        rw [Places.get_put found, if_neg (Ne.symm self)]
        exact found'
      have first := Places.count_held_put holds found (some other) resource
      have second := Places.count_held_put holds still
        (some { other with module := Option.none }) resource
      have whole : Places.heldBy holds (some other) = holds other := rfl
      have rest : Places.heldBy holds (some { other with module := Option.none }) =
          holds ⟨other.handle, Option.none⟩ := rfl
      rw [whole] at first
      rw [rest] at second
      dsimp only
      rw [if_neg self, found', List.filterMap_append, given, List.count_append, Option.bind_some]
      omega
  | destroy target =>
    obtain ⟨object, found, same⟩ := Option.map_eq_some_iff.mp step
    obtain rfl := same
    have removed := Places.count_held_put holds found Option.none resource
    have nothing : Places.heldBy holds Option.none = [] := rfl
    rw [nothing, List.count_nil] at removed
    dsimp only
    rw [List.filterMap_append, given, List.count_append, adds]
    omega

variable {s s' : Modules} {event : ModuleEvent}

/-- What is created is what an event adds. -/
theorem created_step (step : system.step s event = some s') :
    s'.created = s.created ++ (s.adds event).module.toList := by
  cases event with
  | load enabled =>
    obtain rfl := Option.some.inj step
    rfl
  | adopt number =>
    obtain rfl := Option.some.inj step
    rfl
  | moveConstruct source =>
    obtain ⟨other, _, rfl⟩ := Option.map_eq_some_iff.mp step
    exact (List.append_nil _).symm
  | moveAssign target source =>
    obtain ⟨object, _, step⟩ := Option.bind_eq_some_iff.mp step
    obtain ⟨other, _, rfl⟩ := Option.map_eq_some_iff.mp step
    rw [adds]
    split
    · exact (List.append_nil _).symm
    · exact (List.append_nil _).symm
  | destroy target =>
    obtain ⟨object, _, rfl⟩ := Option.map_eq_some_iff.mp step
    exact (List.append_nil _).symm

/-- What `MODULE_LOAD` returns is the next handle, and an event adds no other one unless it assigns
one. -/
theorem handle_step (step : system.step s event = some s') :
    (s.allowed event → List.range s'.loads = List.range s.loads ++ (s.adds event).handle.toList) ∧
    (¬s.allowed event → s'.loads = s.loads ∧ ∃ handle, (s.adds event).handle = some handle) := by
  cases event with
  | load enabled =>
    obtain rfl := Option.some.inj step
    exact ⟨fun _ => List.range_succ, fun not => absurd trivial not⟩
  | adopt number =>
    obtain rfl := Option.some.inj step
    exact ⟨fun _ => (List.append_nil _).symm, fun not => absurd trivial not⟩
  | moveConstruct source =>
    obtain ⟨other, _, rfl⟩ := Option.map_eq_some_iff.mp step
    exact ⟨fun _ => (List.append_nil _).symm, fun not => absurd trivial not⟩
  | moveAssign target source =>
    obtain ⟨object, _, step⟩ := Option.bind_eq_some_iff.mp step
    obtain ⟨other, found, same⟩ := Option.map_eq_some_iff.mp step
    have loads : s'.loads = s.loads := by
      rw [← same]
      split
      · rfl
      · rfl
    rw [adds, allowed, loads, found, Option.bind_some]
    by_cases self : target = source
    · rw [if_pos self]
      exact ⟨fun _ => (List.append_nil _).symm, fun not => absurd (.inl self) not⟩
    · rw [if_neg self]
      cases holds : other.handle with
      | none => exact ⟨fun _ => (List.append_nil _).symm, fun not => absurd (.inr rfl) not⟩
      | some handle =>
        refine ⟨fun fine => ?_, fun _ => ⟨rfl, handle, rfl⟩⟩
        rcases fine with same | free
        · exact absurd same self
        · exact absurd free Bool.false_ne_true
  | destroy target =>
    obtain ⟨object, _, rfl⟩ := Option.map_eq_some_iff.mp step
    exact ⟨fun _ => (List.append_nil _).symm, fun not => absurd trivial not⟩

/-- No event loses a module or destroys it twice. -/
theorem step_modulesOnce (once : s.ModulesOnce) (step : system.step s event = some s') :
    s'.ModulesOnce := by
  rw [ModulesOnce, List.perm_iff_count] at once ⊢
  intro module
  have before := once module
  have counted := count_step (fun object => object.module.toList) destroyed_givesUp rfl step module
  rw [List.count_append, destroyed, owned] at before
  rw [created_step step, List.count_append, List.count_append, destroyed, owned]
  omega

/-- An event keeps every handle once exactly if it does not assign a handle. -/
theorem step_handlesOnce_iff (once : s.HandlesOnce) (step : system.step s event = some s') :
    s'.HandlesOnce ↔ s.allowed event := by
  obtain ⟨fine, wrong⟩ := handle_step step
  rw [HandlesOnce, List.perm_iff_count] at once ⊢
  have counted := count_step (fun object => object.handle.toList) unloaded_givesUp rfl step
  constructor
  · intro after
    by_contra not
    obtain ⟨loads, handle, more⟩ := wrong not
    have before := once handle
    have total := counted handle
    have again := after handle
    rw [List.count_append, unloaded, held] at before again
    rw [more] at total
    rw [loads] at again
    have one : ((some handle).toList).count handle = 1 := List.count_singleton_self
    rw [one] at total
    omega
  · intro allowed handle
    have before := once handle
    have total := counted handle
    rw [List.count_append, unloaded, held] at before
    rw [fine allowed, List.count_append, List.count_append, unloaded, held]
    omega

/-- At first no module has been created. -/
theorem modulesOnce_init : system.init.ModulesOnce := List.Perm.nil

/-- At first no handle has been returned. -/
theorem handlesOnce_init : system.init.HandlesOnce := List.Perm.nil

/-- In every run each module is owned by one object or was destroyed once. Each handle is held by
one object or was given back once throughout exactly if no object with a handle is ever moved by
assignment. -/
theorem handles_given_back_once_iff {events : List ModuleEvent}
    (ran : system.run system.init events = some s) :
    s.ModulesOnce ∧
      ((system.Along (fun s _ => s.HandlesOnce) system.init events ∧ s.HandlesOnce) ↔
        system.Along allowed system.init events) := by
  constructor
  · have reached := System.reachable_of_run ran
    exact reached.invariant ModulesOnce modulesOnce_init
      fun _ _ _ once _ taken => step_modulesOnce once taken
  · exact system.along_holds_iff (fun _ _ _ once taken => step_handlesOnce_iff once taken)
      handlesOnce_init ran

/-- A module from a library that is moved by assignment: its handle is given back twice. -/
theorem assigned_handle_given_back_twice :
    let events := [.load true, .adopt 0, .moveAssign 1 0, .destroy 1, .destroy 0]
    ((system.run system.init events).map unloaded = some [0, 0]) ∧
      ¬system.Along allowed system.init events := by
  intro events
  have ends : ∃ s, system.run system.init events = some s ∧ s.unloaded = [0, 0] ∧ s.loads = 1 :=
    ⟨_, rfl, rfl, rfl⟩
  obtain ⟨s, ran, twice, loads⟩ := ends
  constructor
  · rw [ran, Option.map_some, twice]
  · intro along
    have once := ((handles_given_back_once_iff ran).2.mpr along).2
    have length := List.Perm.length_eq once
    rw [twice, loads, List.length_append, List.length_range] at length
    have two : [0, 0].length = 2 := rfl
    omega

/-- A module from a library is in the object that holds the handle of the library. -/
def Attached (s : Modules) : Prop :=
  ∀ place object handle, s.objects.get place = some object →
    object.module = some (.ofLibrary handle) → object.handle = some handle

/-- A module from a library is only destroyed after the handle of the library was given back. -/
def Detached (effects : List Effect) : Prop :=
  ∀ before after handle, effects = before ++ .destroyed (.ofLibrary handle) :: after →
    .unloaded handle ∈ before

/-- An object that holds the handle of the library of its module gives the handle up first. -/
theorem unloaded_before {object : LoadedModule} {before after : List Effect} {handle : Nat}
    (attached : object.module = some (.ofLibrary handle) → object.handle = some handle)
    (gives : object.givesUp = before ++ .destroyed (.ofLibrary handle) :: after) :
    .unloaded handle ∈ before := by
  have member : Effect.destroyed (.ofLibrary handle) ∈ object.givesUp := by
    rw [gives]
    exact List.mem_append_right _ List.mem_cons_self
  have owns : object.module = some (.ofLibrary handle) := by
    have there := List.mem_filterMap.mpr ⟨_, member, (rfl : Effect.module _ = some _)⟩
    rw [destroyed_givesUp] at there
    exact Option.mem_toList.mp there
  have whole : object.givesUp = [.unloaded handle, .destroyed (.ofLibrary handle)] := by
    rw [LoadedModule.givesUp, attached owns, owns]
    rfl
  rw [whole] at gives
  cases before with
  | nil => exact absurd (List.cons.inj gives).1 Effect.noConfusion
  | cons first rest =>
    rw [← (List.cons.inj gives).1]
    exact List.mem_cons_self

/-- What an object gives up keeps the order. -/
theorem detached_append {effects : List Effect} {object : LoadedModule}
    (detached : Detached effects)
    (attached : ∀ handle, object.module = some (.ofLibrary handle) →
      object.handle = some handle) :
    Detached (effects ++ object.givesUp) := by
  intro before after handle same
  rcases List.append_eq_append_iff.mp same with ⟨middle, begins, ends⟩ | ⟨middle, begins, ends⟩
  · rw [begins]
    exact List.mem_append_right _ (unloaded_before (attached handle) ends)
  · cases middle with
    | nil =>
      have gives : object.givesUp = [] ++ .destroyed (.ofLibrary handle) :: after := ends.symm
      exact absurd (unloaded_before (attached handle) gives) List.not_mem_nil
    | cons first rest =>
      rw [List.cons_append] at ends
      rw [← (List.cons.inj ends).1] at begins
      exact detached before rest handle begins

/-- Every event keeps the handles with their modules, and the order. -/
theorem step_detached (attached : s.Attached) (detached : Detached s.effects)
    (step : system.step s event = some s') : s'.Attached ∧ Detached s'.effects := by
  cases event with
  | load enabled =>
    obtain rfl := Option.some.inj step
    refine ⟨fun place object handle found owns => ?_, detached⟩
    rw [Places.get_add] at found
    split at found
    · obtain rfl := Option.some.inj found
      cases enabled with
      | false => exact absurd owns (Option.some_ne_none _).symm
      | true =>
        have loaded : s.loads = handle := ServerModule.ofLibrary.inj (Option.some.inj owns)
        exact congrArg some loaded
    · exact attached place object handle found owns
  | adopt number =>
    obtain rfl := Option.some.inj step
    refine ⟨fun place object handle found owns => ?_, detached⟩
    rw [Places.get_add] at found
    split at found
    · obtain rfl := Option.some.inj found
      exact absurd (Option.some.inj owns) ServerModule.noConfusion
    · exact attached place object handle found owns
  | moveConstruct source =>
    obtain ⟨other, found, same⟩ := Option.map_eq_some_iff.mp step
    obtain rfl := same
    refine ⟨fun place object handle there owns => ?_, detached⟩
    rw [Places.get_add, Places.get_put found] at there
    split at there
    · obtain rfl := Option.some.inj there
      exact attached source other handle found owns
    · split at there
      · obtain rfl := Option.some.inj there
        exact absurd owns (Option.some_ne_none _).symm
      · exact attached place object handle there owns
  | moveAssign target source =>
    obtain ⟨object, found, step⟩ := Option.bind_eq_some_iff.mp step
    obtain ⟨other, found', same⟩ := Option.map_eq_some_iff.mp step
    by_cases self : target = source
    · rw [if_pos self] at same
      obtain rfl := same
      exact ⟨attached, detached⟩
    · rw [if_neg self] at same
      obtain rfl := same
      have still : (s.objects.put target (some other)).get source = some other := by
        rw [Places.get_put found, if_neg (Ne.symm self)]
        exact found'
      constructor
      · intro place moved handle there owns
        rw [Places.get_put still, Places.get_put found] at there
        split at there
        · obtain rfl := Option.some.inj there
          exact absurd owns (Option.some_ne_none _).symm
        · split at there
          · obtain rfl := Option.some.inj there
            exact attached source _ handle found' owns
          · exact attached place moved handle there owns
      · exact detached_append detached fun handle => attached target object handle found
  | destroy target =>
    obtain ⟨object, found, same⟩ := Option.map_eq_some_iff.mp step
    obtain rfl := same
    constructor
    · intro place other handle there owns
      rw [Places.get_put found] at there
      split at there
      · exact absurd there (Option.some_ne_none _).symm
      · exact attached place other handle there owns
    · exact detached_append detached fun handle => attached target object handle found

/-- In every run a module from a library is destroyed only after the handle of its library was given
back. -/
theorem destroyed_after_unload {events : List ModuleEvent}
    (ran : system.run system.init events = some s) : Detached s.effects := by
  have reached := System.reachable_of_run ran
  have nothing : system.init.Attached := by
    intro place object handle found
    exact absurd (Places.entry_of_get found) (by simp [system])
  have quiet : Detached system.init.effects := by
    intro before after handle same
    exact absurd same (by simp [system])
  have both := reached.invariant (fun s => s.Attached ∧ Detached s.effects) ⟨nothing, quiet⟩
    fun _ _ _ holds _ taken => step_detached holds.1 holds.2 taken
  exact both.2

/-- A vector with one module grows and is destroyed: the library is unloaded before its module. -/
theorem loaded_module_outlives_library :
    let events := [.load true, .moveConstruct 0, .destroy 0, .moveConstruct 1, .destroy 1,
      .destroy 2]
    ∃ s, system.run system.init events = some s ∧ Detached s.effects ∧
      s.effects = [.unloaded 0, .destroyed (.ofLibrary 0)] := by
  intro events
  have ends : ∃ s, system.run system.init events = some s ∧
      s.effects = [.unloaded 0, .destroyed (.ofLibrary 0)] := ⟨_, rfl, rfl⟩
  obtain ⟨s, ran, effects⟩ := ends
  exact ⟨s, ran, destroyed_after_unload ran, effects⟩

end Modules

end XrTransport.Server
