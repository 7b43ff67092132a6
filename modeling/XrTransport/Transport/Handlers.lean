import Mathlib.Logic.Function.Basic
import XrTransport.Foundation.Transition
import XrTransport.Transport.Frame

/-!
# The two tables of handlers

`Transport` stores the functions it is given and hands their addresses to `TransportImpl`, which has
a table of its own. The wrapper's table keeps an entry that is there; the other one overwrites it.
`F` is the type of the functions.
-/
namespace XrTransport.Transport.Handlers

/-- A `Transport`, the functions it stores, and its `TransportImpl`. -/
structure State (F : Type) where
  /-- `Transport::handlers`: where the function of a header is stored. -/
  stored : UInt16 → Option Nat := fun _ => none
  /-- The functions in the nodes of that map. -/
  memory : Nat → Option F := fun _ => none
  /-- `TransportImpl::handlers`: the `handler_data` of a header. -/
  handlers : UInt16 → Option Nat := fun _ => none

/-- A call. -/
inductive Call (F : Type) where
  /-- `register_handler`, with the address the allocator has for a new node. -/
  | registerHandler (header : UInt16) (handler : F) (fresh : Nat)
  /-- `unregister_handler`. -/
  | unregisterHandler (header : UInt16)
  /-- `clear_handlers`. -/
  | clearHandlers

/-- What `dispatch_to_handler` does with a message. -/
inductive Dispatched (F : Type) where
  /-- It answers the shutdown and stops the threads. -/
  | stopThreads
  /-- It logs a warning. -/
  | ignored
  /-- It invokes the function at an address. -/
  | invoked (address : Nat) (handler : F)
  /-- It invokes what is no longer stored. -/
  | dangling (address : Nat)
deriving DecidableEq

namespace State

variable {F : Type}

/-- `handlers.emplace(header, handler)` of the wrapper: an entry that is there stays. -/
def emplace (s : State F) (header : UInt16) (handler : F) (fresh : Nat) : Nat × State F :=
  match s.stored header with
  | some address => (address, s)
  | none =>
    (fresh, { s with
      stored := Function.update s.stored header (some fresh)
      memory := Function.update s.memory fresh (some handler) })

/-- `Transport::register_handler`. -/
def registerHandler (s : State F) (header : UInt16) (handler : F) (fresh : Nat) : State F :=
  let (address, s) := s.emplace header handler fresh
  { s with handlers := Function.update s.handlers header (some address) }

/-- `Transport::unregister_handler`. -/
def unregisterHandler (s : State F) (header : UInt16) : State F :=
  { stored := Function.update s.stored header none
    memory := fun address => if s.stored header = some address then none else s.memory address
    handlers := Function.update s.handlers header none }

/-- `Transport::clear_handlers`. -/
def clearHandlers (_ : State F) : State F := {}

/-- `TransportImpl::dispatch_to_handler`. -/
def dispatchToHandler (s : State F) (header : UInt16) : Dispatched F :=
  if header = shutdown then .stopThreads
  else
    match s.handlers header with
    | none => .ignored
    | some address =>
      match s.memory address with
      | some handler => .invoked address handler
      | none => .dangling address

end State

variable {F : Type}

/-- A `Transport` and the calls on it; the allocator never returns an address that is in use. -/
def registry (F : Type) : System (State F) (Call F) where
  init := {}
  step s
    | .registerHandler header handler fresh =>
      if (s.memory fresh).isNone then some (s.registerHandler header handler fresh) else none
    | .unregisterHandler header => some (s.unregisterHandler header)
    | .clearHandlers => some s.clearHandlers

/-- What a call does to the functions registered for a header. -/
def Call.record (header : UInt16) (before : List F) : Call F → List F
  | .registerHandler other handler _ => if other = header then before ++ [handler] else before
  | .unregisterHandler other => if other = header then [] else before
  | .clearHandlers => []

/-- The functions registered for a header since its last removal, in order. -/
def registrations (calls : List (Call F)) (header : UInt16) : List F :=
  calls.foldl (Call.record header) []

/-- The tables point to the functions that were registered first. -/
structure Tracks (s : State F) (first : UInt16 → Option F) : Prop where
  /-- Both tables have the same addresses. -/
  table : s.handlers = s.stored
  /-- At these addresses are those functions. -/
  kept : ∀ header, (s.stored header).map s.memory = (first header).map some
  /-- No two headers share a node. -/
  apart : ∀ header other address, s.stored header = some address →
    s.stored other = some address → header = other

namespace Tracks

variable {s : State F} {first : UInt16 → Option F}

/-- An address that is free is not stored. -/
theorem fresh (tracks : Tracks s first) {address : Nat} (free : (s.memory address).isNone)
    (header : UInt16) : s.stored header ≠ some address := by
  intro used
  have kept := tracks.kept header
  rw [used, Option.map_some, Option.isNone_iff_eq_none.mp free] at kept
  cases known : first header <;> rw [known] at kept <;> simp at kept

/-- A registration stores the function if there is none and keeps the old one otherwise. -/
theorem registerHandler (tracks : Tracks s first) (header : UInt16) (handler : F) {address : Nat}
    (free : (s.memory address).isNone) :
    Tracks (s.registerHandler header handler address)
      (fun other => if header = other then (first other).or (some handler) else first other) := by
  have fresh := tracks.fresh free
  have keptHere := tracks.kept header
  cases known : s.stored header with
  | some used =>
    have unchanged : s.registerHandler header handler address = s := by
      have same : Function.update s.handlers header (some used) = s.handlers := by
        rw [tracks.table, ← known, Function.update_eq_self]
      simp [State.registerHandler, State.emplace, known, same]
    rw [unchanged]
    refine ⟨tracks.table, fun other => ?_, tracks.apart⟩
    split
    next same =>
      subst same
      rw [known, Option.map_some] at keptHere
      cases old : first header with
      | none => simp [old] at keptHere
      | some function =>
        rw [known, Option.map_some, keptHere, old]
        rfl
    · exact tracks.kept other
  | none =>
    rw [known, Option.map_none, eq_comm, Option.map_eq_none_iff] at keptHere
    have changed : s.registerHandler header handler address =
        { stored := Function.update s.stored header (some address)
          memory := Function.update s.memory address (some handler)
          handlers := Function.update s.handlers header (some address) } := by
      simp [State.registerHandler, State.emplace, known]
    rw [changed]
    refine ⟨by simp only [tracks.table], fun other => ?_, fun one other shared => ?_⟩
    · by_cases same : header = other
      · subst same
        simp [keptHere]
      · have kept := tracks.kept other
        simp only [if_neg same, Function.update_of_ne (Ne.symm same)]
        cases place : s.stored other with
        | none => rw [← kept, place, Option.map_none, Option.map_none]
        | some used =>
          have other_ne : used ≠ address := fun clash => fresh other (clash ▸ place)
          rw [← kept, place, Option.map_some, Option.map_some, Function.update_of_ne other_ne]
    · have apart := tracks.apart one other shared
      have freshOne := fresh one
      have freshOther := fresh other
      simp only [Function.update_apply]
      grind

/-- A removal forgets the function. -/
theorem unregisterHandler (tracks : Tracks s first) (header : UInt16) :
    Tracks (s.unregisterHandler header)
      (fun other => if header = other then none else first other) := by
  refine ⟨by simp only [State.unregisterHandler, tracks.table], fun other => ?_,
    fun one other shared => ?_⟩
  · by_cases same : header = other
    · subst same
      simp [State.unregisterHandler]
    · have kept := tracks.kept other
      simp only [State.unregisterHandler, if_neg same, Function.update_of_ne (Ne.symm same)]
      cases place : s.stored other with
      | none => rw [← kept, place, Option.map_none, Option.map_none]
      | some used =>
        have elsewhere : s.stored header ≠ some used :=
          fun clash => same (tracks.apart header other used clash place)
        rw [← kept, place, Option.map_some, Option.map_some, if_neg elsewhere]
  · have apart := tracks.apart one other shared
    simp only [State.unregisterHandler, Function.update_apply]
    grind

/-- Nothing is registered in empty tables. -/
theorem empty : Tracks ({} : State F) (fun _ => none) :=
  ⟨rfl, fun _ => rfl, fun _ _ _ stored => by simp at stored⟩

/-- The tables follow a call. -/
theorem step {since : UInt16 → List F} (tracks : Tracks s fun header => (since header).head?)
    {call : Call F} {s' : State F} (taken : (registry F).step s call = some s') :
    Tracks s' fun header => (call.record header (since header)).head? := by
  cases call with
  | registerHandler header handler fresh =>
    simp only [registry, Option.ite_none_right_eq_some, Option.some.injEq] at taken
    obtain ⟨free, rfl⟩ := taken
    have stored := tracks.registerHandler header handler free
    simp only [Call.record, apply_ite List.head?, List.head?_append]
    exact stored
  | unregisterHandler header =>
    obtain rfl := Option.some.inj taken
    have removed := tracks.unregisterHandler header
    simp only [Call.record, apply_ite List.head?]
    exact removed
  | clearHandlers =>
    obtain rfl := Option.some.inj taken
    exact empty

/-- So they follow a sequence of calls. -/
theorem run {since : UInt16 → List F} (tracks : Tracks s fun header => (since header).head?)
    {calls : List (Call F)} {s' : State F} (ran : (registry F).run s calls = some s') :
    Tracks s' fun header => (calls.foldl (Call.record header) (since header)).head? := by
  induction calls generalizing s since with
  | nil =>
    obtain rfl := Option.some.inj ran
    exact tracks
  | cons call rest ih =>
    obtain ⟨middle, taken, ran⟩ := Option.bind_eq_some_iff.mp ran
    have moved := tracks.step taken
    exact @ih middle (fun header => call.record header (since header)) moved ran

/-- A message goes to the function that was registered first, which is stored. -/
theorem dispatchToHandler (tracks : Tracks s first) {header : UInt16} (other : header ≠ shutdown) :
    match first header with
    | none => s.dispatchToHandler header = .ignored
    | some function => ∃ address, s.dispatchToHandler header = .invoked address function ∧
        s.stored header = some address ∧ s.memory address = some function := by
  have kept := tracks.kept header
  cases known : first header with
  | none =>
    rw [known, Option.map_none, Option.map_eq_none_iff] at kept
    simp [State.dispatchToHandler, other, tracks.table, kept]
  | some function =>
    rw [known, Option.map_some, Option.map_eq_some_iff] at kept
    obtain ⟨address, place, content⟩ := kept
    exact ⟨address, by simp [State.dispatchToHandler, other, tracks.table, place, content], place,
      content⟩

end Tracks

/-- The function invoked for a message is the expected one and is stored by the wrapper, and none is
invoked if none is expected. -/
def Follows (s : State F) (header : UInt16) (expected : Option F) : Prop :=
  match s.dispatchToHandler header with
  | .stopThreads => False
  | .ignored => expected = none
  | .invoked address handler =>
    expected = some handler ∧ s.stored header = some address ∧ s.memory address = some handler
  | .dangling _ => False

/-- After any calls, a message that is not the shutdown goes to the function of the most recent
registration of its header exactly if, of the registrations since the last removal, the first one
has that function too. -/
theorem follows_latest_iff {calls : List (Call F)} {s : State F}
    (ran : (registry F).run (registry F).init calls = some s) {header : UInt16}
    (other : header ≠ shutdown) :
    Follows s header (registrations calls header).getLast? ↔
      (registrations calls header).head? = (registrations calls header).getLast? := by
  have start : Tracks (registry F).init fun _ => ([] : List F).head? := Tracks.empty
  have dispatched := (start.run ran).dispatchToHandler other
  change match (registrations calls header).head? with | none => _ | some function => _
    at dispatched
  cases known : (registrations calls header).head? with
  | none =>
    rw [known] at dispatched
    simp only [Follows, dispatched, eq_comm]
  | some function =>
    rw [known] at dispatched
    obtain ⟨address, invoked, place, content⟩ := dispatched
    simp only [Follows, invoked, place, content, and_true, eq_comm]

/-- Registered, removed, and registered again. -/
theorem follows_latest_iff_again :
    ∃ s, (registry Bool).run (registry Bool).init
        [.registerHandler 100 false 0, .unregisterHandler 100, .registerHandler 100 true 0] =
          some s ∧
      Follows s 100 (some true) :=
  ⟨_, rfl, (@follows_latest_iff Bool
    [.registerHandler 100 false 0, .unregisterHandler 100, .registerHandler 100 true 0] _ rfl 100
    (by decide)).mpr rfl⟩

/-- A second registration of a header is dropped by the wrapper. -/
theorem second_registration_dropped :
    ¬∀ (calls : List (Call Bool)) (s : State Bool) (header : UInt16),
      (registry Bool).run (registry Bool).init calls = some s → header ≠ shutdown →
      Follows s header (registrations calls header).getLast? := by
  intro always
  have follows := always [.registerHandler 100 false 0, .registerHandler 100 true 1] _ 100 rfl
    (by decide)
  exact absurd follows.1 (by decide)

end XrTransport.Transport.Handlers
