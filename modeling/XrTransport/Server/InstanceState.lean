import XrTransport.Server.Handlers

/-!
# What the handlers do to the instance

Only the handlers of `xrCreateInstance` and `xrDestroyInstance` touch `saved_instance`,
`loader_instance` and the runtime's instances, and they do so before their last action, which sends
the reply. A handler that throws has sent nothing.
-/
namespace XrTransport.Server

open Program (Meets Keeps forEach)

/-- Where the server and the runtime record the instance. -/
structure Record where
  /-- `Server::saved_instance`. -/
  saved : Nat
  /-- `FunctionLoader::loader_instance`. -/
  loader : Nat
  /-- The runtime. -/
  runtime : Runtime
deriving DecidableEq

/-- The record of a state. -/
def State.instances (s : State) : Record := ⟨s.savedInstance, s.loaderInstance, s.runtime⟩

/-- The record and what has been sent. -/
def State.seen (s : State) : Record × List Reply := (s.instances, s.replies)

/-- The program touches no record and sends nothing. -/
def Silent {α : Type} (program : Handler α) : Prop := Keeps State.seen program

/-- `attempt` is silent. -/
theorem silent_attempt (succeeds : Bool) : Silent (attempt succeeds) := by
  unfold attempt
  exact .ite .pure .throw

/-- `dereference` is silent. -/
theorem silent_dereference (present : Bool) : Silent (dereference present) := by
  unfold dereference
  exact .ite .pure fun _ => rfl

/-- Code that calls only Vulkan is silent. -/
theorem silent_runPart (answers : Answers) (part : VulkanPart) :
    Silent (runPart answers part) := by
  unfold runPart
  split
  · exact .pure
  · exact .throw
  · exact fun _ => rfl

/-- `ensure_function_loaded` is silent. -/
theorem silent_ensure (answers : Answers) (slot : Slot) :
    Silent (ensureFunctionLoaded answers slot) := by
  intro s
  unfold ensureFunctionLoaded
  split
  · rfl
  · split
    · rfl
    · rfl

/-- Most runtime functions make and destroy no instance. -/
theorem silent_call (slot : Slot) : Silent (callPointer slot) := by
  intro s
  unfold callPointer
  split
  · rfl
  · rfl

/-- `setup_vulkan_instance` is silent. -/
theorem silent_setup (answers : Answers) : Silent (setupVulkanInstance answers) := by
  have checked (slot : Slot) : Silent (callChecked answers slot) :=
    Keeps.bind (silent_call slot) fun _ => silent_attempt _
  have vulkan (slot : Slot) : Silent (callVulkan answers slot) :=
    Keeps.bind (silent_call slot) fun _ => silent_attempt _
  unfold setupVulkanInstance
  refine Keeps.bind (checked _) fun _ => ?_
  refine Keeps.bind (checked _) fun _ => ?_
  refine Keeps.bind (vulkan _) fun _ => ?_
  refine Keeps.bind (silent_attempt _) fun _ => ?_
  refine Keeps.bind (silent_runPart answers _) fun _ => ?_
  refine Keeps.bind (checked _) fun _ => ?_
  refine Keeps.bind (silent_runPart answers _) fun _ => ?_
  refine Keeps.bind (vulkan _) fun _ => ?_
  refine Keeps.bind (silent_attempt _) fun _ => ?_
  exact silent_runPart answers _

/-- `on_instance` is silent. -/
theorem silent_onInstance (answers : Answers) (module : Module) :
    Silent (onInstance answers module) := by
  cases module with
  | handleExchange => exact .pure
  | vulkan =>
    exact Keeps.bind (Keeps.forEach fun slot => silent_ensure answers slot) fun _ =>
      silent_setup answers

/-- `on_instance_destroy` is silent. -/
theorem silent_onInstanceDestroy (answers : Answers) (module : Module) :
    Silent (onInstanceDestroy answers module) := by
  cases module with
  | handleExchange => exact .pure
  | vulkan => exact silent_runPart answers _

/-- Nothing has been sent. -/
def Unanswered (s : State) : Prop := s.replies = []

/-- A silent program keeps the record while nothing has been sent. -/
theorem Silent.meets {α : Type} {program : Handler α} (silent : Silent program)
    (record : Record) :
    Meets (fun s => s.seen = (record, [])) program (fun _ s => s.seen = (record, []))
      Unanswered := by
  have kept : Meets (fun s => s.seen = (record, [])) program
      (fun _ s => s.seen = (record, [])) (fun s => s.seen = (record, [])) :=
    Meets.of_always fun s start => (silent s).trans start
  exact kept.consequence (fun _ => id) (fun _ _ => id) fun _ same => congrArg Prod.snd same

/-- Sending a reply that leaves the record alone. -/
theorem send_meets (reply : Reply) (record : Record) :
    Meets (fun s => s.seen = (record, [])) (send reply) (fun _ s => s.seen = (record, [reply]))
      Unanswered := by
  intro s same
  have instances : s.instances = record := congrArg Prod.fst same
  have replies : s.replies = [] := congrArg Prod.snd same
  show (s.instances, s.replies ++ [reply]) = (record, [reply])
  rw [instances, replies, List.nil_append]

section
variable (answers : Answers) (payload : Payload) (record : Record)

/-- The record after `create_instance_handler` has replied. -/
def Record.created : Record :=
  if (answers.result .createInstance 0).succeeded then
    ⟨answers.created, answers.created, record.runtime.create answers.created⟩
  else record

/-- The reply of `create_instance_handler`. -/
def createReply : Reply where
  header := .functionReturn
  result := answers.result .createInstance 0
  handle := if (answers.result .createInstance 0).succeeded then answers.created.val
    else payload.handle

/-- `create_instance_handler` records a new instance everywhere before it replies. -/
theorem createInstanceHandler_meets :
    Meets (fun s => s.seen = (record, [])) (createInstanceHandler answers payload)
      (fun _ s => s.seen = (record.created answers, [createReply answers payload]))
      Unanswered := by
  unfold createInstanceHandler
  refine Meets.bind ((silent_ensure answers _).meets record) fun _ => ?_
  refine Meets.bind ((silent_attempt _).meets record) fun _ => ?_
  refine Meets.bind ((silent_dereference _).meets record) fun _ => ?_
  refine Meets.bind ((silent_call _).meets record) fun _ => ?_
  cases succeeded : (answers.result .createInstance 0).succeeded with
  | false =>
    simp only [succeeded, Record.created, createReply, Bool.false_eq_true, if_false]
    exact send_meets _ record
  | true =>
    simp only [succeeded, Record.created, createReply, if_true]
    intro s same
    have runtime : s.runtime = record.runtime :=
      congrArg (fun seen : Record × List Reply => seen.1.runtime) same
    have replies : s.replies = [] := congrArg Prod.snd same
    cases payload.instanceOut with
    | false => exact replies
    | true =>
      let next : Record :=
        ⟨answers.created, answers.created, record.runtime.create answers.created⟩
      let reply : Reply :=
        { header := .functionReturn
          result := answers.result .createInstance 0
          handle := answers.created.val }
      have rest : Meets (fun s => s.seen = (next, []))
          (do
            let s ← Program.get
            forEach s.modules (onInstance answers)
            send reply)
          (fun _ s => s.seen = (next, [reply])) Unanswered := by
        refine Meets.bind (Silent.meets Keeps.get next) fun _ => ?_
        refine Meets.bind (Silent.meets (Keeps.forEach fun module =>
          silent_onInstance answers module) next) fun _ => ?_
        exact send_meets _ next
      refine rest _ ?_
      show ((⟨_, _, s.runtime.create _⟩ : Record), s.replies) = (next, [])
      rw [runtime, replies]

/-- The record after `destroy_instance_handler` has replied. -/
def Record.destroyed : Record :=
  if payload.handle = record.saved then
    ⟨0, record.loader,
      if (answers.result .destroyInstance 0).succeeded then record.runtime.destroy payload.handle
      else record.runtime⟩
  else record

/-- The reply of `destroy_instance_handler`. -/
def destroyReply : Reply where
  header := .functionReturn
  result := some (if payload.handle = record.saved then answers.result .destroyInstance 0
    else .handleInvalid)

/-- `destroy_instance_handler` forgets the saved instance before it replies, whatever the runtime
has answered, and `loader_instance` stays. -/
theorem destroyInstanceHandler_meets :
    Meets (fun s => s.seen = (record, [])) (destroyInstanceHandler answers payload)
      (fun _ s => s.seen = (record.destroyed answers payload,
        [destroyReply answers payload record])) Unanswered := by
  unfold destroyInstanceHandler
  refine Meets.bind ((silent_ensure answers _).meets record) fun _ => ?_
  refine Meets.bind ((silent_attempt _).meets record) fun _ => ?_
  have saved (s : State) (same : s.seen = (record, [])) : s.savedInstance = record.saved :=
    congrArg (fun seen : Record × List Reply => seen.1.saved) same
  refine Meets.get fun now same => ?_
  have start (s : State) (equal : s = now) : s.seen = (record, []) := equal ▸ same
  simp only [saved now same, Record.destroyed, destroyReply]
  split
  · refine Meets.consequence ?_ start (fun _ _ => id) fun _ => id
    refine Meets.bind (Silent.meets (Keeps.forEach fun module =>
      silent_onInstanceDestroy answers module) record) fun _ => ?_
    refine Meets.bind ((silent_call _).meets record) fun _ => ?_
    intro s same
    have loader : s.loaderInstance = record.loader :=
      congrArg (fun seen : Record × List Reply => seen.1.loader) same
    have runtime : s.runtime = record.runtime :=
      congrArg (fun seen : Record × List Reply => seen.1.runtime) same
    have replies : s.replies = [] := congrArg Prod.snd same
    refine send_meets _ _ _ ?_
    simp only [State.seen, State.instances, loader, runtime, replies]
  · exact (send_meets _ record).consequence start (fun _ _ => id) fun _ => id

variable {answers payload}

/-- A create request that cannot be decoded changes no record. -/
theorem silent_undecoded (fails : payload.decodes = false) :
    Silent (createInstanceHandler answers payload) := by
  unfold createInstanceHandler
  rw [fails]
  exact Keeps.bind (silent_ensure answers _) fun _ => fun _ => rfl

/-- The synchronization handler changes no record. -/
theorem handleSynchronizationRequest_instances :
    Keeps State.instances (handleSynchronizationRequest answers payload) := by
  have kept {α : Type} {program : Handler α} (silent : Silent program) :
      Keeps State.instances program := silent.map Prod.fst
  unfold handleSynchronizationRequest
  refine Keeps.bind (kept (silent_ensure answers _)) fun _ => ?_
  refine Keeps.bind (kept (silent_ensure answers _)) fun _ => ?_
  refine Keeps.bind (kept (silent_attempt _)) fun _ => ?_
  refine Keeps.bind (kept (silent_call _)) fun _ => ?_
  exact fun _ => rfl

end

section
variable {s s' : State} {payload : Payload} {answers : Answers}

/-- A request for which a handler is registered has been handled after the dispatch. -/
theorem handled_of_dispatch {request : Request}
    (registered : request.registered s.modules = true)
    (taken : dispatch s ⟨request, payload, answers⟩ = some s') :
    s' = (handle answers payload request { s with replies := [] }).2 := by
  simp only [dispatch, registered, if_true] at taken
  split at taken
  · contradiction
  · exact (Option.some.inj taken).symm

/-- A handler that replies at its end has sent nothing or has come to its end. -/
theorem answered_of_meets {handler : Handler Unit} {record : Record} {after : Record × List Reply}
    (meets : Meets (fun s => s.seen = (record, [])) handler (fun _ s => s.seen = after)
      Unanswered) (start : s.seen = (record, [])) :
    (handler s).2.replies = [] ∨ (handler s).2.seen = after := by
  have either : Meets (fun s => s.seen = (record, [])) handler
      (fun _ s => s.replies = [] ∨ s.seen = after) (fun s => s.replies = [] ∨ s.seen = after) :=
    meets.consequence (fun _ => id) (fun _ _ ended => .inr ended) fun _ nothing => .inl nothing
  exact either.always start

/-- After a create request the server has sent nothing, or has recorded the instance and replied. -/
theorem dispatch_create
    (taken : dispatch s ⟨.functionCall (some .createInstance), payload, answers⟩ = some s') :
    s'.replies = [] ∨
      s'.seen = (s.instances.created answers, [createReply answers payload]) := by
  rw [handled_of_dispatch rfl taken]
  exact answered_of_meets (createInstanceHandler_meets answers payload s.instances) rfl

/-- After a destroy request the server has sent nothing, or has forgotten the instance and
replied. -/
theorem dispatch_destroy
    (taken : dispatch s ⟨.functionCall (some .destroyInstance), payload, answers⟩ = some s') :
    s'.replies = [] ∨ s'.seen = (s.instances.destroyed answers payload,
      [destroyReply answers payload s.instances]) := by
  rw [handled_of_dispatch rfl taken]
  exact answered_of_meets (destroyInstanceHandler_meets answers payload s.instances) rfl

/-- A create request that cannot be decoded leaves the record alone. -/
theorem dispatch_undecoded (fails : payload.decodes = false)
    (taken : dispatch s ⟨.functionCall (some .createInstance), payload, answers⟩ = some s') :
    s'.instances = s.instances := by
  rw [handled_of_dispatch rfl taken]
  exact congrArg Prod.fst (silent_undecoded fails { s with replies := [] })

/-- A synchronization request leaves the record alone. -/
theorem dispatch_synchronization
    (taken : dispatch s ⟨.synchronizationRequest, payload, answers⟩ = some s') :
    s'.instances = s.instances := by
  rw [handled_of_dispatch rfl taken]
  exact handleSynchronizationRequest_instances { s with replies := [] }

/-- The constructor leaves the record as the members are initialized. -/
theorem construct_instances (answers : Answers) (modules : List Module) (savedInstance : Nat) :
    (construct answers modules savedInstance).instances = ⟨savedInstance, 0, {}⟩ := by
  have silent : Silent (loadModules answers) := by
    unfold loadModules
    refine Keeps.bind (silent_ensure answers _) fun _ => ?_
    exact Keeps.bind (silent_call _) fun _ => silent_call _
  exact congrArg Prod.fst (silent { savedInstance := savedInstance, modules := modules })

end

end XrTransport.Server
