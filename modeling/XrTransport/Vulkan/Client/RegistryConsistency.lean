import XrTransport.Foundation.Transition
import XrTransport.Vulkan.Client.Registry

/-!
# The registries agree

Runs of the four functions on sessions and swapchains. The runtime may use the handle of a swapchain
again once it has been destroyed: `alive` has the swapchains that have not been, with their
sessions. In every state the swapchains name their sessions and the sessions list their swapchains.
The entry of a destroyed session stays, and with it what a new session of the same handle would
store.
-/
namespace XrTransport.Vulkan.Client.Registry

/-- The registries agree with each other: the session of a registered swapchain is registered and
lists it, and what a registered session lists is registered with that session as parent. -/
abbrev State.Consistent (s : State) : Prop :=
  Related Swapchain.parentHandle SessionState.swapchains s.sessionStates s.swapchainStates

namespace State.Consistent

variable {s : State} {session : SessionState} {handle : Handle}

/-- A new swapchain is listed by its session. -/
theorem register {swapchain : Swapchain} (consistent : s.Consistent)
    (found : s.sessionStates.lookup swapchain.parentHandle = some session)
    (unregistered : s.swapchainStates.lookup swapchain.handle = none) :
    (s.register session swapchain).Consistent := by
  rw [State.Consistent, State.register, Registry.emplace_of_none unregistered]
  refine consistent.adopt found unregistered fun other => ?_
  rw [SessionState.enlist, List.mem_insert_iff]

/-- An erased swapchain is not listed any more. -/
theorem unregister {state : Swapchain} (consistent : s.Consistent)
    (registered : s.swapchainStates.lookup handle = some state)
    (found : s.sessionStates.lookup state.parentHandle = some session) :
    (s.unregister session handle state).Consistent := by
  refine consistent.disown registered found fun other => ?_
  rw [SessionState.delist, List.mem_filter, decide_eq_true_eq]

end State.Consistent

/-- What destroying a swapchain leaves of the registries. -/
structure Destroyed (swapchain : Handle) (s s' : State) : Prop where
  /-- They agree. -/
  consistent : s'.Consistent
  /-- The swapchain is not registered. -/
  gone : s'.swapchainStates.lookup swapchain = none
  /-- The other swapchains are as before. -/
  others : ∀ other, other ≠ swapchain →
    s'.swapchainStates.lookup other = s.swapchainStates.lookup other
  /-- The sessions stay registered. -/
  sessions : ∀ session, (s'.sessionStates.lookup session).isSome =
    (s.sessionStates.lookup session).isSome

/-- `xrDestroySwapchainImpl` erases the swapchain, even when no reply arrives. -/
theorem xrDestroySwapchain_spec {s : State} (consistent : s.Consistent) (next : Option XrResult)
    (returned : Bool) (swapchain : Handle) :
    Destroyed swapchain s (xrDestroySwapchain next returned swapchain s).2 := by
  rw [xrDestroySwapchain_eq]
  cases registered : s.swapchainStates.lookup swapchain with
  | none => exact ⟨consistent, registered, fun _ _ => rfl, fun _ => rfl⟩
  | some state =>
    obtain ⟨session, found, -⟩ := consistent.named swapchain state registered
    simp only [found]
    refine ⟨consistent.unregister registered found, AList.lookup_erase _ _,
      fun other different => AList.lookup_erase_ne different, fun other => ?_⟩
    by_cases same : other = state.parentHandle
    · subst same
      have stays : (s.unregister session swapchain state).sessionStates.lookup
          state.parentHandle = some (session.delist swapchain) := AList.lookup_insert _
      rw [stays, found]
      rfl
    · exact congrArg Option.isSome (AList.lookup_insert_ne same)

/-- What destroying several swapchains leaves of the registries. -/
structure AllDestroyed (swapchains : List Handle) (s s' : State) : Prop where
  /-- They agree. -/
  consistent : s'.Consistent
  /-- Of these swapchains none is registered. -/
  gone : ∀ swapchain ∈ swapchains, s'.swapchainStates.lookup swapchain = none
  /-- The other swapchains are as before. -/
  others : ∀ other, other ∉ swapchains →
    s'.swapchainStates.lookup other = s.swapchainStates.lookup other
  /-- The sessions stay registered. -/
  sessions : ∀ session, (s'.sessionStates.lookup session).isSome =
    (s.sessionStates.lookup session).isSome

/-- The loop of `xrDestroySessionImpl` erases all its swapchains. -/
theorem destroySwapchains_spec {s : State} (consistent : s.Consistent)
    (returned : Handle → Bool) (swapchains : List Handle) :
    AllDestroyed swapchains s (destroySwapchains returned swapchains s) := by
  induction swapchains generalizing s with
  | nil => exact ⟨consistent, by simp, fun _ _ => rfl, fun _ => rfl⟩
  | cons swapchain rest ih =>
    have first := xrDestroySwapchain_spec consistent none (returned swapchain) swapchain
    have later := ih first.consistent
    refine ⟨later.consistent, fun other member => ?_, fun other absent => ?_, fun session => ?_⟩
    · by_cases again : other ∈ rest
      · exact later.gone other again
      · rcases List.mem_cons.mp member with rfl | there
        · exact (later.others other again).trans first.gone
        · exact absurd there again
    · rw [List.mem_cons, not_or] at absent
      exact (later.others other absent.2).trans (first.others other absent.1)
    · exact (later.sessions session).trans (first.sessions session)

/-- After the loop no swapchain of the session is registered. -/
theorem AllDestroyed.childless {s s' : State} {handle : Handle} {session : SessionState}
    (destroyed : AllDestroyed session.swapchains s s') (consistent : s.Consistent)
    (found : s.sessionStates.lookup handle = some session) {swapchain : Handle}
    {state : Swapchain} (registered : s'.swapchainStates.lookup swapchain = some state) :
    state.parentHandle ≠ handle ∧ s.swapchainStates.lookup swapchain = some state := by
  have absent : swapchain ∉ session.swapchains := by
    intro lists
    rw [destroyed.gone swapchain lists] at registered
    cases registered
  have before : s.swapchainStates.lookup swapchain = some state :=
    (destroyed.others swapchain absent).symm.trans registered
  refine ⟨fun same => ?_, before⟩
  obtain ⟨parent, looked, lists⟩ := consistent.named swapchain state before
  rw [same, found] at looked
  obtain rfl := Option.some.inj looked
  exact absent lists

/-- A call of one of the four functions, with what its own calls return. -/
inductive Call where
  /-- `xrCreateSwapchain`. -/
  | createSwapchain (vk : Nat → VkResult) (next : Option XrResult)
      (returned : Option CreateSwapchainReturn) (session : Handle)
      (createInfo : SwapchainCreateInfo)
  /-- `xrDestroySwapchain`. -/
  | destroySwapchain (next : Option XrResult) (returned : Bool) (swapchain : Handle)
  /-- `xrCreateSession`. -/
  | createSession (call : SessionCall)
  /-- `xrDestroySession`. -/
  | destroySession (next : Option XrResult) (swapchainReturned : Handle → Bool)
      (returned : Bool) (session : Handle)

namespace Call

/-- The state after a call. -/
def perform (s : State) : Call → State
  | createSwapchain vk next returned session createInfo =>
    (xrCreateSwapchain vk next returned session createInfo s).2
  | destroySwapchain next returned swapchain => (xrDestroySwapchain next returned swapchain s).2
  | createSession call => (xrCreateSession call s).2
  | destroySession next swapchainReturned returned session =>
    (xrDestroySession next swapchainReturned returned session s).2

/-- The swapchain, with its session, that the runtime has created when the call succeeds. -/
def begun : Call → Option (Handle × Handle)
  | createSwapchain _ _ (some message) session _ =>
    if message.result = .success then some (message.handle, session) else none
  | _ => none

/-- The call may end the life of a swapchain of a session. -/
def Ends (pair : Handle × Handle) : Call → Prop
  | destroySwapchain _ _ swapchain => pair.1 = swapchain
  | destroySession _ _ _ session => pair.2 = session
  | _ => False

instance (pair : Handle × Handle) : ∀ call, Decidable (Ends pair call)
  | createSwapchain .. | createSession _ => inferInstanceAs (Decidable False)
  | destroySwapchain _ _ swapchain => inferInstanceAs (Decidable (pair.1 = swapchain))
  | destroySession _ _ _ session => inferInstanceAs (Decidable (pair.2 = session))

end Call

/-- The client, and the swapchains that are alive in the runtime with their sessions. -/
structure World where
  /-- The client's module. -/
  state : State
  /-- The swapchains. -/
  alive : List (Handle × Handle) := []

/-- What the runtime may do during a call: no other swapchain is destroyed than by the call, and the
handle of one that is created is not in use. -/
def Lawful (call : Call) (alive alive' : List (Handle × Handle)) : Prop :=
  (∀ pair ∈ alive, pair ∈ alive' ∨ call.Ends pair) ∧
    ∀ pair ∈ call.begun, (∀ old ∈ alive, old.1 ≠ pair.1) ∧ pair ∈ alive'

instance (call : Call) (alive alive' : List (Handle × Handle)) :
    Decidable (Lawful call alive alive') :=
  inferInstanceAs (Decidable (_ ∧ _))

/-- Runs of calls, each with what is alive after it. -/
def system (start : World) : System World (Call × List (Handle × Handle)) where
  init := start
  step world label :=
    if Lawful label.1 world.alive label.2 then
      some { state := label.1.perform world.state, alive := label.2 }
    else none

/-- No session or swapchain has been created yet. -/
def Started (world : World) : Prop :=
  world.state.sessionStates = ∅ ∧ world.state.swapchainStates = ∅

/-- The registries agree, and what is registered is alive. -/
structure World.Sound (world : World) : Prop where
  /-- The registries. -/
  consistent : world.state.Consistent
  /-- The swapchains. -/
  living : ∀ swapchain state, world.state.swapchainStates.lookup swapchain = some state →
    (swapchain, state.parentHandle) ∈ world.alive

/-- Nothing is registered at first. -/
theorem Started.sound {world : World} (started : Started world) : world.Sound := by
  obtain ⟨sessions, swapchains⟩ := started
  refine ⟨⟨fun swapchain state found => ?_, fun handle session found => ?_⟩,
    fun swapchain state found => ?_⟩
  · rw [swapchains] at found
    cases found
  · rw [sessions] at found
    cases found
  · rw [swapchains] at found
    cases found

section Steps

variable {world : World} {alive' : List (Handle × Handle)}

/-- A call that changes no swapchain and destroys none keeps what is registered alive. -/
theorem World.Sound.of_swapchains (sound : world.Sound) {call : Call} {s' : State}
    (lawful : Lawful call world.alive alive') (consistent : s'.Consistent)
    (same : ∀ swapchain state, s'.swapchainStates.lookup swapchain = some state →
      world.state.swapchainStates.lookup swapchain = some state ∧
        ¬call.Ends (swapchain, state.parentHandle)) :
    World.Sound ⟨s', alive'⟩ := by
  refine ⟨consistent, fun swapchain state found => ?_⟩
  obtain ⟨before, spared⟩ := same swapchain state found
  exact (lawful.1 _ (sound.living swapchain state before)).resolve_right spared

/-- `xrCreateSwapchain` keeps the registries in agreement. -/
theorem createSwapchain_sound (sound : world.Sound) (vk : Nat → VkResult)
    (next : Option XrResult) (returned : Option CreateSwapchainReturn) (session : Handle)
    (createInfo : SwapchainCreateInfo)
    (lawful : Lawful (.createSwapchain vk next returned session createInfo) world.alive alive') :
    World.Sound ⟨(xrCreateSwapchain vk next returned session createInfo world.state).2,
      alive'⟩ := by
  have unchanged (platform : Platform) :
      World.Sound ⟨{ world.state with platform }, alive'⟩ :=
    sound.of_swapchains lawful sound.consistent fun _ _ found => ⟨found, not_false⟩
  rw [xrCreateSwapchain_eq]
  cases found : world.state.sessionStates.lookup session with
  | none => exact unchanged world.state.platform
  | some sessionState =>
    cases returned with
    | none => exact unchanged world.state.platform
    | some message =>
      by_cases refused : message.result ≠ .success
      · simp only [if_pos refused]
        exact unchanged world.state.platform
      simp only [if_neg refused]
      cases type : imageTypeOf createInfo.usageFlags with
      | none => exact unchanged world.state.platform
      | some imageType =>
        rcases made : createImages vk sessionState message.numImages world.state.platform with
          ⟨_ | images, platform⟩
        · exact unchanged platform
        have begun : (Call.createSwapchain vk next (some message) session createInfo).begun =
            some (message.handle, session) := if_pos (not_not.mp refused)
        obtain ⟨fresh, born⟩ := lawful.2 _ begun
        have unregistered : world.state.swapchainStates.lookup message.handle = none := by
          cases old : world.state.swapchainStates.lookup message.handle with
          | none => rfl
          | some state =>
            have living := sound.living message.handle state old
            exact absurd rfl (fresh (message.handle, state.parentHandle) living)
        set swapchain := newSwapchain createInfo message.handle session images imageType
        have consistent := @State.Consistent.register { world.state with platform } sessionState
          swapchain sound.consistent found unregistered
        refine ⟨consistent, fun other state registered => ?_⟩
        have stored : (State.register { world.state with platform } sessionState
            swapchain).swapchainStates = world.state.swapchainStates.insert message.handle
              swapchain := Registry.emplace_of_none unregistered
        rw [stored] at registered
        by_cases new : other = message.handle
        · subst new
          rw [AList.lookup_insert] at registered
          obtain rfl := Option.some.inj registered
          exact born
        · rw [AList.lookup_insert_ne new] at registered
          exact (lawful.1 _ (sound.living other state registered)).resolve_right not_false

/-- Every call keeps the registries in agreement. -/
theorem perform_sound (sound : world.Sound) (call : Call)
    (lawful : Lawful call world.alive alive') :
    World.Sound ⟨call.perform world.state, alive'⟩ := by
  cases call with
  | createSwapchain vk next returned session createInfo =>
    exact createSwapchain_sound sound vk next returned session createInfo lawful
  | destroySwapchain next returned swapchain =>
    have destroyed := xrDestroySwapchain_spec sound.consistent next returned swapchain
    refine sound.of_swapchains lawful destroyed.consistent fun other state found => ?_
    have different : other ≠ swapchain := by
      rintro rfl
      rw [Call.perform, destroyed.gone] at found
      cases found
    exact ⟨(destroyed.others other different).symm.trans found, different⟩
  | createSession call =>
    rw [Call.perform, xrCreateSession_eq]
    have unchanged : World.Sound ⟨world.state, alive'⟩ :=
      sound.of_swapchains lawful sound.consistent fun _ _ found => ⟨found, not_false⟩
    split
    · exact unchanged
    split
    · exact unchanged
    split
    · exact unchanged
    split
    case h_2 => exact unchanged
    exact sound.of_swapchains lawful (sound.consistent.emplace rfl) fun _ _ found =>
      ⟨found, not_false⟩
  | destroySession next swapchainReturned returned session =>
    rw [Call.perform, xrDestroySession_eq]
    cases found : world.state.sessionStates.lookup session with
    | none =>
      refine sound.of_swapchains lawful sound.consistent fun swapchain state registered => ?_
      refine ⟨registered, fun same => ?_⟩
      obtain ⟨parent, looked, -⟩ := sound.consistent.named swapchain state registered
      have parent_eq : state.parentHandle = session := same
      rw [parent_eq, found] at looked
      cases looked
    | some state =>
      have destroyed := destroySwapchains_spec sound.consistent swapchainReturned state.swapchains
      refine sound.of_swapchains lawful destroyed.consistent fun swapchain child registered => ?_
      have survives := destroyed.childless sound.consistent found registered
      exact ⟨survives.2, survives.1⟩

end Steps

/-- A step is a lawful call. -/
theorem step_eq_some {start world world' : World} {label : Call × List (Handle × Handle)}
    (taken : (system start).step world label = some world') :
    Lawful label.1 world.alive label.2 ∧
      world' = { state := label.1.perform world.state, alive := label.2 } := by
  by_cases lawful : Lawful label.1 world.alive label.2
  · have stepped : (system start).step world label =
        some { state := label.1.perform world.state, alive := label.2 } := if_pos lawful
    rw [stepped] at taken
    exact ⟨lawful, (Option.some.inj taken).symm⟩
  · have stuck : (system start).step world label = none := if_neg lawful
    rw [stuck] at taken
    cases taken

/-- Every step keeps a world sound. -/
theorem step_sound {start world world' : World} {label : Call × List (Handle × Handle)}
    (sound : world.Sound) (taken : (system start).step world label = some world') :
    world'.Sound := by
  obtain ⟨lawful, rfl⟩ := step_eq_some taken
  exact perform_sound sound label.1 lawful

/-- The worlds of all runs are sound. -/
theorem run_sound {start world : World} (started : Started start)
    {labels : List (Call × List (Handle × Handle))}
    (ran : (system start).run start labels = some world) : world.Sound :=
  System.Reachable.invariant World.Sound started.sound
    (fun _ _ _ sound _ taken => step_sound sound taken) (System.reachable_of_run ran)

/-- The state of a new session. -/
def SessionCall.session (call : SessionCall) (handle : Handle) (graphicsBinding : GraphicsBinding)
    (commandPool : Handle) : SessionState :=
  { handle, graphicsBinding, queue := call.queue, commandPool }

/-- What a call that succeeds promises: a destroyed session is not registered, and what is stored
for a session that is created holds the binding, the queue and the command pool of the call. -/
def Fulfilled (s : State) : Call → Prop
  | .destroySession next swapchainReturned returned session =>
    (xrDestroySession next swapchainReturned returned session s).1 = .success →
      (xrDestroySession next swapchainReturned returned session s).2.sessionStates.lookup session =
        none
  | .createSession call =>
    ∀ handle, (xrCreateSession call s).1 = (.success, some handle) →
      ∃ graphicsBinding ∈ call.binding, ∃ commandPool ∈ call.commandPool,
        (xrCreateSession call s).2.sessionStates.lookup handle =
          some (call.session handle graphicsBinding commandPool)
  | .createSwapchain .. | .destroySwapchain .. => True

/-- The condition on the calls: no registered session is destroyed with success, and no session is
created under the handle of a registered one, unless that has the same state. -/
def Fits (s : State) : Call → Prop
  | .destroySession _ _ returned session =>
    s.sessionStates.lookup session = none ∨ returned = false
  | .createSession call =>
    call.xrInstance = s.savedXrInstance → s.graphicsRequirementsCalled = true →
      ∀ graphicsBinding ∈ call.binding, ∀ handle ∈ call.returned, ∀ commandPool ∈ call.commandPool,
        ∀ old ∈ s.sessionStates.lookup handle,
          old = call.session handle graphicsBinding commandPool
  | .createSwapchain .. | .destroySwapchain .. => True

/-- A registered session is still registered after it has been destroyed. -/
theorem destroySession_fulfilled_iff {s : State} (consistent : s.Consistent)
    (next : Option XrResult) (swapchainReturned : Handle → Bool) (returned : Bool)
    (session : Handle) :
    Fulfilled s (.destroySession next swapchainReturned returned session) ↔
      Fits s (.destroySession next swapchainReturned returned session) := by
  simp only [Fulfilled, Fits, xrDestroySession_eq]
  cases found : s.sessionStates.lookup session with
  | none => simp [found]
  | some state =>
    have destroyed := destroySwapchains_spec consistent swapchainReturned state.swapchains
    have stays := destroyed.sessions session
    rw [found] at stays
    cases returned with
    | false => simp [XrResult.success, XrResult.runtimeFailure]
    | true =>
      simp only [if_true, forall_const, reduceCtorEq, Bool.true_eq_false, or_self, iff_false]
      intro gone
      rw [gone] at stays
      cases stays

/-- A session that is registered keeps its state when it is created again. -/
theorem createSession_fulfilled_iff (s : State) (call : SessionCall) :
    Fulfilled s (.createSession call) ↔ Fits s (.createSession call) := by
  simp only [Fulfilled, Fits, xrCreateSession_eq]
  cases binding : call.binding with
  | none => simp
  | some graphicsBinding =>
    by_cases same : call.xrInstance = s.savedXrInstance
    case neg => simp [same]
    cases required : s.graphicsRequirementsCalled with
    | false => simp [same]
    | true =>
      cases returned : call.returned with
      | none => simp [same]
      | some handle =>
        cases pool : call.commandPool with
        | none => simp [same]
        | some commandPool =>
          cases old : s.sessionStates.lookup handle with
          | none =>
            simp [same, SessionCall.session, Registry.lookup_emplace_self, old]
          | some state =>
            simp [same, SessionCall.session, Registry.lookup_emplace_self, old]

/-- In every run of calls the registries agree, and the calls keep what they promise throughout
exactly if they meet that condition throughout. -/
theorem registries_agree_iff (start world : World) (started : Started start)
    (labels : List (Call × List (Handle × Handle)))
    (ran : (system start).run start labels = some world) :
    world.state.Consistent ∧
      ((system start).Along (fun world label => Fulfilled world.state label.1) start labels ↔
        (system start).Along (fun world label => Fits world.state label.1) start labels) := by
  refine ⟨(run_sound started ran).consistent, ?_⟩
  refine (system start).along_congr (fun _ _ _ sound taken => step_sound sound taken)
    (fun before label sound => ?_) started.sound
  rcases label with ⟨call, alive⟩
  cases call with
  | createSwapchain vk next returned session createInfo => exact Iff.rfl
  | destroySwapchain next returned swapchain => exact Iff.rfl
  | createSession call => exact createSession_fulfilled_iff before.state call
  | destroySession next swapchainReturned returned session =>
    exact destroySession_fulfilled_iff sound.consistent next swapchainReturned returned session

/-- A module whose instance is 1. -/
def started : World := { state := { savedXrInstance := 1, graphicsRequirementsCalled := true } }

/-- A session with a command pool, under the handle 7. -/
def sessionSeven (commandPool : Handle) : Call :=
  .createSession {
    xrInstance := 1
    binding := some ⟨2, 3, 4, 0, 0⟩
    next := none
    returned := some 7
    queue := 5
    commandPool := some commandPool }

/-- A session and a swapchain of one image live and die. -/
def oneLife : List (Call × List (Handle × Handle)) :=
  [(sessionSeven 6, []),
    (.createSwapchain (fun _ => .success) none (some ⟨.success, 8, 1⟩) 7 ⟨0, 1, 64, 64⟩, [(8, 7)]),
    (.destroySwapchain none true 8, [])]

/-- There are such runs. -/
theorem oneLife_agrees :
    ∃ world, (system started).run started oneLife = some world ∧ world.state.Consistent ∧
      ((system started).Along (fun world label => Fulfilled world.state label.1) started oneLife ↔
        (system started).Along (fun world label => Fits world.state label.1) started oneLife) := by
  refine ⟨_, rfl, ?_⟩
  exact registries_agree_iff started _ ⟨rfl, rfl⟩ oneLife rfl

/-- A session is destroyed and the runtime gives its handle to the next one: that has the command
pool of the first. -/
theorem reused_session_unfulfilled :
    ¬∀ (start world : World) (labels : List (Call × List (Handle × Handle))), Started start →
      (system start).run start labels = some world →
      world.state.Consistent ∧
        (system start).Along (fun world label => Fulfilled world.state label.1) start labels := by
  intro always
  have promised := always started _
    [(sessionSeven 6, []), (.destroySession none (fun _ => true) true 7, []), (sessionSeven 9, [])]
    ⟨rfl, rfl⟩ rfl
  have destroyed := promised.2.2.1 rfl
  cases destroyed

end XrTransport.Vulkan.Client.Registry
