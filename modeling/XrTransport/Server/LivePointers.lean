import Mathlib.Data.List.Nodup
import XrTransport.Foundation.Simulation
import XrTransport.Server.CallPlans

/-!
# Calls through pointers of live instances

`ensure_function_loaded` never looks at a pointer again once it is cached, and destroying an
instance neither empties the cache nor `loader_instance`. So the calls through a variable are proper
exactly if the instance that had been created last when the function was first asked for was live
then and has not been destroyed since. `BoundInTime` says this of the order in which the requests
create and destroy instances, ask for functions and call them.
-/
namespace XrTransport.Server

open LateBinding

/-- The pointer was returned for one of these instances. -/
def Pointer.Current (pointer : Pointer) (live : List Instance) : Prop :=
  ∃ one ∈ live, pointer.source = some one.serial

instance (pointer : Pointer) (live : List Instance) : Decidable (pointer.Current live) :=
  inferInstanceAs (Decidable (∃ one ∈ live, pointer.source = some one.serial))

/-- The call needs no instance, or goes through a pointer returned for a live instance. -/
def Call.Proper (call : Call) : Prop :=
  call.slot.function.global = true ∨
    ∃ pointer ∈ call.pointer, pointer.Current call.live

instance (call : Call) : Decidable call.Proper :=
  inferInstanceAs (Decidable (_ ∨ ∃ pointer ∈ call.pointer, pointer.Current call.live))

/-- The server with its modules, the answers while it is constructed, and what `saved_instance`
happens to hold then. -/
def server (answers : Answers) (modules : List Module) (savedInstance : Nat) :
    System State Delivery where
  init := construct answers modules savedInstance
  step := dispatch

/-! ## The history of a run -/

/-- What a request does with the variables, given which of them are filled. -/
def Delivery.history (s : State) (delivery : Delivery) : History :=
  if delivery.request.registered s.modules then
    reached (fun slot => (s.pointers slot).isSome)
      (delivery.request.plan delivery.answers delivery.payload s.tables)
  else []

/-- `load_modules`. -/
def loadModulesPlan (answers : Answers) : Plan :=
  loads answers (.member .enumerateInstanceExtensionProperties) ++
  uses (.member .enumerateInstanceExtensionProperties) ++
  uses (.member .enumerateInstanceExtensionProperties)

/-- What the constructor and the requests of a run do with the variables. -/
def runHistory (answers : Answers) (modules : List Module) (savedInstance : Nat)
    (deliveries : List Delivery) : History :=
  reached (fun _ => false) (loadModulesPlan answers) ++
    (server answers modules savedInstance).trace (fun s delivery => delivery.history s)
      (server answers modules savedInstance).init deliveries

/-- Instance `handle` has been created and not been destroyed since. -/
def Lives (handle : { handle : Nat // handle ≠ 0 }) (history : History) : Prop :=
  ∃ early late, history = early ++ .change (.create handle) :: late ∧
    .change (.destroy handle) ∉ late

/-- Instance `handle` is the last one that the loader has been given. -/
def Adopted (handle : { handle : Nat // handle ≠ 0 }) (history : History) : Prop :=
  ∃ early late, history = early ++ .change (.adopt handle) :: late ∧
    ∀ other, .change (.adopt other) ∉ late

/-- Each function that needs an instance is called after it has been asked for, which was while the
instance that the loader had been given last was live; and that instance is not destroyed before the
call. -/
def BoundInTime (history : History) : Prop :=
  ∀ slot before after, history = before ++ .use slot :: after →
    slot.function.global = true ∨
      ∃ early late, before = early ++ .bind slot :: late ∧ .bind slot ∉ late ∧
        ∃ handle, Adopted handle early ∧ Lives handle early ∧ .change (.destroy handle) ∉ late

/-! ## The store of a run -/

/-- A server before anything has happened. -/
def emptyStore : Store Slot Surroundings Pointer Call := ⟨{}, fun _ => none, []⟩

/-- What the constructor does. -/
theorem construct_store (answers : Answers) (modules : List Module) (savedInstance : Nat) :
    (construct answers modules savedInstance).store =
      pointerRules.replay emptyStore (reached (fun _ => false) (loadModulesPlan answers)) := by
  have carries : Carries ⟨modules, savedInstance, fun _ => none, fun _ => none⟩
      (loadModulesPlan answers) (loadModules answers) :=
    ((ensure_does _).seq ((call_does _).seq (call_does _))).performs
  exact carries { savedInstance := savedInstance, modules := modules } rfl

/-- What a request does. -/
theorem dispatch_store {s s' : State} {delivery : Delivery}
    (taken : dispatch s delivery = some s') :
    s'.store = pointerRules.replay s.store (delivery.history s) := by
  unfold dispatch at taken
  unfold Delivery.history
  split at taken
  · contradiction
  · split at taken
    next registered =>
      obtain rfl := Option.some.inj taken
      rw [if_pos registered]
      exact handle_carries delivery.request { s with replies := [] } rfl
    next unregistered =>
      obtain rfl := Option.some.inj taken
      rw [if_neg unregistered]
      rfl

/-- What a run does. -/
theorem run_store {answers : Answers} {modules : List Module} {savedInstance : Nat}
    {deliveries : List Delivery} {s s' : State}
    (ran : (server answers modules savedInstance).run s deliveries = some s') :
    s'.store = pointerRules.replay s.store
      ((server answers modules savedInstance).trace (fun s delivery => delivery.history s) s
        deliveries) := by
  induction deliveries generalizing s with
  | nil =>
    obtain rfl := Option.some.inj ran
    rfl
  | cons delivery rest ih =>
    obtain ⟨middle, taken, ran⟩ := Option.bind_eq_some_iff.mp ran
    rw [System.trace_cons taken, Rules.replay_append, ← dispatch_store taken]
    exact ih ran

/-- What the constructor and the requests of a run do. -/
theorem server_store {answers : Answers} {modules : List Module} {savedInstance : Nat}
    {deliveries : List Delivery} {s : State}
    (ran : (server answers modules savedInstance).run
      (server answers modules savedInstance).init deliveries = some s) :
    s.store = pointerRules.replay emptyStore
      (runHistory answers modules savedInstance deliveries) := by
  rw [runHistory, Rules.replay_append, ← construct_store answers modules savedInstance]
  exact run_store ran

/-! ## The instances of a history -/

/-- The surroundings after a history. -/
abbrev after (env : Surroundings) (history : History) : Surroundings :=
  pointerRules.around env history

/-- Binding a variable changes nothing around it. -/
@[simp] theorem after_bind (env : Surroundings) (slot : Slot) (rest : History) :
    after env (.bind slot :: rest) = after env rest := rfl

/-- Neither does a call. -/
@[simp] theorem after_use (env : Surroundings) (slot : Slot) (rest : History) :
    after env (.use slot :: rest) = after env rest := rfl

/-- A change comes before what follows. -/
@[simp] theorem after_change (env : Surroundings) (what : Change) (rest : History) :
    after env (.change what :: rest) = after (pointerRules.move env what) rest := rfl

/-- Instances are numbered in the order of their creation, and no handle is `XR_NULL_HANDLE`. -/
structure Runtime.Numbered (runtime : Runtime) : Prop where
  /-- The numbers have been given. -/
  given : ∀ one ∈ runtime.live, one.serial < runtime.created
  /-- No two instances have the same one. -/
  distinct : (runtime.live.map Instance.serial).Nodup
  /-- The handles are not null. -/
  handles : ∀ one ∈ runtime.live, one.handle ≠ 0

/-- Every change keeps the instances numbered. -/
theorem Runtime.Numbered.move {env : Surroundings} (numbered : env.runtime.Numbered)
    (what : Change) : (pointerRules.move env what).runtime.Numbered := by
  cases what with
  | create handle =>
    refine ⟨?_, ?_, ?_⟩
    · intro one member
      obtain rfl | old := List.mem_cons.mp member
      · exact Nat.lt_succ_self _
      · exact Nat.lt_succ_of_lt (numbered.given one old)
    · refine List.nodup_cons.mpr ⟨fun again => ?_, numbered.distinct⟩
      obtain ⟨one, old, same⟩ := List.mem_map.mp again
      exact Nat.ne_of_lt (numbered.given one old) same
    · intro one member
      obtain rfl | old := List.mem_cons.mp member
      · exact handle.property
      · exact numbered.handles one old
  | adopt handle => exact numbered
  | destroy handle =>
    refine ⟨?_, numbered.distinct.sublist (List.filter_sublist.map _), ?_⟩
    · exact fun one member => numbered.given one (List.mem_of_mem_filter member)
    · exact fun one member => numbered.handles one (List.mem_of_mem_filter member)

/-- So does every history. -/
theorem numbered_after {env : Surroundings} (numbered : env.runtime.Numbered) (history : History) :
    (after env history).runtime.Numbered := by
  induction history generalizing env with
  | nil => exact numbered
  | cons event rest ih =>
    cases event with
    | bind slot => exact ih numbered
    | use slot => exact ih numbered
    | change what => exact ih (numbered.move what)

/-- The loader has been given an instance last by an event, or after it. -/
theorem adopted_cons {event : Event Slot Change} {history : History}
    {handle : { handle : Nat // handle ≠ 0 }} :
    Adopted handle (event :: history) ↔
      (event = .change (.adopt handle) ∧ ∀ other, .change (.adopt other) ∉ history) ∨
        Adopted handle history :=
  exists_split_cons

/-- An instance has been created by an event and lives, or was created after it. -/
theorem lives_cons {event : Event Slot Change} {history : History}
    {handle : { handle : Nat // handle ≠ 0 }} :
    Lives handle (event :: history) ↔
      (event = .change (.create handle) ∧ .change (.destroy handle) ∉ history) ∨
        Lives handle history :=
  exists_split_cons

/-- The loader asks for the instance it has been given last. -/
theorem loader_after {env : Surroundings} {history : History}
    {handle : { handle : Nat // handle ≠ 0 }} :
    (after env history).loader = handle ↔
      Adopted handle history ∨
        (env.loader = handle ∧ ∀ other, .change (.adopt other) ∉ history) := by
  induction history generalizing env with
  | nil => simp [after, Rules.around, Adopted]
  | cons event rest ih =>
    rw [adopted_cons]
    cases event with
    | bind slot => simpa using ih
    | use slot => simpa using ih
    | change what =>
      rw [after_change, ih]
      cases what with
      | create other => simp [pointerRules]
      | destroy other => simp [pointerRules]
      | adopt other =>
        have replaced : ¬(env.loader = handle ∧
            ∀ one, .change (.adopt one) ∉ Event.change (.adopt other) :: rest) :=
          fun none => none.2 other List.mem_cons_self
        have same : (other : Nat) = handle ↔
            (.change (.adopt other) : Event Slot Change) = .change (.adopt handle) := by
          simp [Subtype.ext_iff]
        show _ ∨ ((other : Nat) = handle ∧ _) ↔ _
        rw [same, or_iff_left replaced]
        exact or_comm

/-- The live instances of a handle. -/
theorem live_after {env : Surroundings} {history : History}
    {handle : { handle : Nat // handle ≠ 0 }} :
    (∃ one ∈ (after env history).runtime.live, one.handle = handle) ↔
      Lives handle history ∨
        ((∃ one ∈ env.runtime.live, one.handle = handle) ∧
          .change (.destroy handle) ∉ history) := by
  induction history generalizing env with
  | nil => simp [after, Rules.around, Lives]
  | cons event rest ih =>
    rw [lives_cons]
    cases event with
    | bind slot => simpa using ih
    | use slot => simpa using ih
    | change what =>
      rw [after_change, ih]
      cases what with
      | adopt other => simp [pointerRules]
      | create other =>
        have same : (other : Nat) = handle ↔
            (.change (.create other) : Event Slot Change) = .change (.create handle) := by
          simp [Subtype.ext_iff]
        have born : (∃ one ∈ (env.runtime.create other).live, one.handle = handle) ↔
            (other : Nat) = handle ∨ ∃ one ∈ env.runtime.live, one.handle = handle := by
          simp [Runtime.create]
        have kept : Event.change (.destroy handle) ∉ Event.change (.create other) :: rest ↔
            Event.change (.destroy handle) ∉ rest := by
          simp
        show _ ∨ (∃ one ∈ (env.runtime.create other).live, one.handle = handle) ∧ _ ↔ _
        rw [born, same, kept, or_and_right, or_left_comm, or_assoc]
      | destroy other =>
        have left : (∃ one ∈ (env.runtime.destroy other).live, one.handle = handle) ↔
            (handle : Nat) ≠ other ∧ ∃ one ∈ env.runtime.live, one.handle = handle := by
          simp only [Runtime.destroy, List.mem_filter, bne_iff_ne]
          constructor
          · rintro ⟨one, ⟨live, apart⟩, named⟩
            exact ⟨named ▸ apart, one, live, named⟩
          · rintro ⟨apart, one, live, named⟩
            exact ⟨one, ⟨live, named.symm ▸ apart⟩, named⟩
        have kept : Event.change (.destroy handle) ∉ Event.change (.destroy other) :: rest ↔
            (handle : Nat) ≠ other ∧ Event.change (.destroy handle) ∉ rest := by
          simp
        have apart : (.change (.destroy other) : Event Slot Change) ≠ .change (.create handle) := by
          simp
        show _ ∨ (∃ one ∈ (env.runtime.destroy other).live, one.handle = handle) ∧ _ ↔ _
        rw [left, kept, eq_false apart, false_and, false_or, and_assoc]
        exact or_congr_right and_left_comm

/-- An instance stays until it is destroyed. -/
theorem stays_after {env : Surroundings} {history : History} {one : Instance}
    (live : one ∈ env.runtime.live) (kept : .change (.destroy one.handle) ∉ history) :
    one ∈ (after env history).runtime.live := by
  induction history generalizing env with
  | nil => exact live
  | cons event rest ih =>
    have later : .change (.destroy one.handle) ∉ rest := fun member =>
      kept (List.mem_cons_of_mem _ member)
    cases event with
    | bind slot => exact ih live later
    | use slot => exact ih live later
    | change what =>
      refine ih ?_ later
      cases what with
      | create handle => exact List.mem_cons_of_mem _ live
      | adopt handle => exact live
      | destroy handle =>
        have other : one.handle ≠ handle := by
          rintro rfl
          exact kept List.mem_cons_self
        exact List.mem_filter.mpr ⟨live, by simpa using other⟩

/-- A number that has been given and that no live instance has is not given again. -/
theorem gone_after {env : Surroundings} {history : History} {serial : Nat}
    (given : serial < env.runtime.created) (gone : ∀ one ∈ env.runtime.live, one.serial ≠ serial) :
    ∀ one ∈ (after env history).runtime.live, one.serial ≠ serial := by
  induction history generalizing env with
  | nil => exact gone
  | cons event rest ih =>
    cases event with
    | bind slot => exact ih given gone
    | use slot => exact ih given gone
    | change what =>
      cases what with
      | create handle =>
        refine ih (Nat.lt_succ_of_lt given) fun one member => ?_
        obtain rfl | old := List.mem_cons.mp member
        · exact Nat.ne_of_gt given
        · exact gone one old
      | adopt handle => exact ih given gone
      | destroy handle =>
        exact ih given fun one member => gone one (List.mem_of_mem_filter member)

/-- After its destruction no live instance has the number of an instance. -/
theorem destroyed_after {env : Surroundings} {history : History} {one : Instance}
    (numbered : env.runtime.Numbered) (live : one ∈ env.runtime.live)
    (destroyed : .change (.destroy one.handle) ∈ history) :
    ∀ other ∈ (after env history).runtime.live, other.serial ≠ one.serial := by
  induction history generalizing env with
  | nil => exact absurd destroyed List.not_mem_nil
  | cons event rest ih =>
    by_cases now : event = .change (.destroy one.handle)
    · rw [now, after_change]
      refine gone_after (numbered.given one live) fun other kept same => ?_
      obtain ⟨before, apart⟩ := List.mem_filter.mp kept
      obtain rfl := List.inj_on_of_nodup_map numbered.distinct before live same
      simp at apart
    · have later : .change (.destroy one.handle) ∈ rest :=
        (List.mem_cons.mp destroyed).resolve_left (Ne.symm now)
      have kept : one ∈ (after env [event]).runtime.live :=
        stays_after live fun member => now (List.mem_singleton.mp member).symm
      have onward : after env (event :: rest) = after (after env [event]) rest :=
        Rules.around_append env [event] rest
      rw [onward]
      exact ih (numbered_after numbered [event]) kept later

/-- A pointer that was fetched then is current now exactly if the instance it was fetched for was
live and has not been destroyed. -/
theorem offer_current_iff {early late : History} :
    (pointerRules.offer (after {} early)).Current (after (after {} early) late).runtime.live ↔
      ∃ handle, Adopted handle early ∧ Lives handle early ∧
        .change (.destroy handle) ∉ late := by
  have numbered : (after {} early).runtime.Numbered :=
    numbered_after ⟨by simp, by simp, by simp⟩ early
  constructor
  · rintro ⟨one, live, source⟩
    obtain ⟨first, found, same⟩ : ∃ first,
        (after {} early).runtime.live.find? (fun one => one.handle == (after {} early).loader) =
          some first ∧ first.serial = one.serial := by
      simpa [pointerRules, Runtime.serial] using source
    have was := List.mem_of_find?_eq_some found
    have named : first.handle = (after {} early).loader := by
      simpa using List.find?_some found
    have nonzero : (after {} early).loader ≠ 0 := named ▸ numbered.handles first was
    let handle : { handle : Nat // handle ≠ 0 } := ⟨(after {} early).loader, nonzero⟩
    have loader : (after {} early).loader = handle := rfl
    refine ⟨handle, ?_, ?_, ?_⟩
    · obtain adopted | ⟨zero, _⟩ := loader_after.mp loader
      · exact adopted
      · exact absurd zero.symm nonzero
    · have there : ∃ one ∈ (after {} early).runtime.live, one.handle = handle := ⟨first, was, named⟩
      obtain lives | ⟨⟨_, none, _⟩, _⟩ := live_after.mp there
      · exact lives
      · exact absurd none List.not_mem_nil
    · intro destroyed
      rw [← loader, ← named] at destroyed
      exact destroyed_after numbered was destroyed one live same.symm
  · rintro ⟨handle, adopted, lives, kept⟩
    have loader : (after {} early).loader = handle := loader_after.mpr (.inl adopted)
    have found : ((after {} early).runtime.live.find?
        fun one => one.handle == (after {} early).loader).isSome = true := by
      rw [List.find?_isSome, loader]
      simpa using live_after.mpr (.inl lives)
    obtain ⟨first, found⟩ := Option.isSome_iff_exists.mp found
    have named : first.handle = handle := by
      simpa [loader] using List.find?_some found
    refine ⟨first, stays_after (List.mem_of_find?_eq_some found) (by rw [named]; exact kept), ?_⟩
    simp [pointerRules, Runtime.serial, found]

/-- The calls of a history are proper exactly if its functions are asked for and called in time. -/
theorem notes_proper_iff (history : History) :
    (∀ call ∈ (pointerRules.replay emptyStore history).notes, call.Proper) ↔
      BoundInTime history := by
  have around_bind (early late : History) (slot : Slot) :
      after {} (early ++ .bind slot :: late) = after (after {} early) late :=
    Rules.around_append _ early _
  have current (slot : Slot) (before : History) :
      (∃ pointer ∈ (pointerRules.replay emptyStore before).cells slot,
        pointer.Current (after {} before).runtime.live) ↔
      ∃ early late, before = early ++ .bind slot :: late ∧ .bind slot ∉ late ∧
        ∃ handle, Adopted handle early ∧ Lives handle early ∧
          .change (.destroy handle) ∉ late := by
    simp only [Option.mem_def, Rules.cells_eq_some_iff]
    constructor
    · rintro ⟨pointer, ⟨early, late, rfl, last, rfl⟩ | ⟨_, none⟩, live⟩
      · rw [around_bind] at live
        exact ⟨early, late, rfl, last, offer_current_iff.mp live⟩
      · contradiction
    · rintro ⟨early, late, rfl, last, inTime⟩
      refine ⟨_, .inl ⟨early, late, rfl, last, rfl⟩, ?_⟩
      rw [around_bind]
      exact offer_current_iff.mpr inTime
  constructor
  · intro proper slot before later split
    have call := proper _ (Rules.mem_notes_iff.mpr (.inr ⟨slot, before, later, split, rfl⟩))
    exact call.imp_right (current slot before).mp
  · intro inTime call noted
    obtain none | ⟨slot, before, later, split, rfl⟩ := Rules.mem_notes_iff.mp noted
    · exact absurd none List.not_mem_nil
    · exact (inTime slot before later split).imp_right (current slot before).mpr

/-- In every run, every call of a runtime function that needs an instance goes through a pointer
that `xrGetInstanceProcAddr` has returned for an instance that is live at the moment of the call,
exactly if the requests ask for their functions and call them in time. -/
theorem calls_reach_live_instances {answers : Answers} {modules : List Module}
    {savedInstance : Nat} {deliveries : List Delivery} {s : State}
    (ran : (server answers modules savedInstance).run
      (server answers modules savedInstance).init deliveries = some s) :
    (∀ call ∈ s.calls, call.Proper) ↔
      BoundInTime (runHistory answers modules savedInstance deliveries) := by
  have calls : s.calls = (pointerRules.replay emptyStore
      (runHistory answers modules savedInstance deliveries)).notes :=
    congrArg Store.notes (server_store ran)
  rw [calls]
  exact notes_proper_iff _

/-- Every function is granted and succeeds; instances get the handle 5. -/
def succeeding : Answers where
  grants := fun _ => true
  result := fun _ _ => .success
  created := ⟨5, by decide⟩
  handle := 7
  dropped := 0
  polled := .success
  vkResult := fun _ => .success
  vulkan := fun _ => .completed
  serializes := true

/-- `xrCreateInstance`. -/
def createOne : Delivery where
  request := .functionCall (some .createInstance)
  payload := { decodes := true }
  answers := succeeding

/-- `xrGetSystem`. -/
def getSystemOne : Delivery where
  request := .functionCall (some .getSystem)
  payload := { decodes := true }
  answers := succeeding

/-- `xrDestroyInstance` of that instance. -/
def destroyOne : Delivery where
  request := .functionCall (some .destroyInstance)
  payload := { decodes := true, handle := 5 }
  answers := succeeding

/-- The destruction of a swapchain that there is not. -/
def destroyStray : Delivery where
  request := .destroySwapchain
  payload := { decodes := true, handle := 9 }
  answers := succeeding

/-- One instance is served by both modules, after a stray request; and without the Vulkan module a
second instance follows it. Everything is in time. -/
theorem calls_reach_live_instances_once :
    BoundInTime (runHistory succeeding [.handleExchange, .vulkan] 0
        [destroyStray, createOne, destroyOne]) ∧
      BoundInTime (runHistory succeeding [.handleExchange] 0
        [createOne, getSystemOne, destroyOne, createOne]) := by
  have both : ((server succeeding [.handleExchange, .vulkan] 0).run
      (server succeeding [.handleExchange, .vulkan] 0).init
        [destroyStray, createOne, destroyOne]).map
        (fun s => (s.calls.length, decide (∀ call ∈ s.calls, call.Proper))) = some (9, true) := by
    decide
  have one : ((server succeeding [.handleExchange] 0).run
      (server succeeding [.handleExchange] 0).init
        [createOne, getSystemOne, destroyOne, createOne]).map
        (fun s => (s.calls.length, decide (∀ call ∈ s.calls, call.Proper))) = some (6, true) := by
    decide
  obtain ⟨s, ran, seen⟩ := Option.map_eq_some_iff.mp both
  obtain ⟨t, ran', seen'⟩ := Option.map_eq_some_iff.mp one
  exact ⟨(calls_reach_live_instances ran).mp (of_decide_eq_true (Prod.mk.inj seen).2),
    (calls_reach_live_instances ran').mp (of_decide_eq_true (Prod.mk.inj seen').2)⟩

/-- A second instance is used through the pointers fetched for the first. -/
theorem secondInstance_stale :
    ¬∀ (answers : Answers) (modules : List Module) (savedInstance : Nat)
      (deliveries : List Delivery) (s : State),
      (server answers modules savedInstance).run
        (server answers modules savedInstance).init deliveries = some s →
      ∀ call ∈ s.calls, call.Proper := by
  intro always
  have ran : ((server succeeding [.handleExchange, .vulkan] 0).run
      (server succeeding [.handleExchange, .vulkan] 0).init
        [createOne, destroyOne, createOne]).map
        (fun s => decide (∀ call ∈ s.calls, call.Proper)) = some false := by
    decide
  obtain ⟨s, ran, improper⟩ := Option.map_eq_some_iff.mp ran
  exact of_decide_eq_false improper (always _ _ _ _ _ ran)

end XrTransport.Server
