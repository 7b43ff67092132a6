import XrTransport.Foundation.Transition
import XrTransport.Vulkan.Client.CallOrder

/-!
# The fences of a swapchain

Each image has a fence for its acquire submission, created signalled. Vulkan wants a fence that is
passed to a submission to be unsignalled and not pending, and one that is reset not to be pending.
-/
namespace XrTransport.Vulkan.Client

/-- A fence. -/
structure Fence where
  /-- It is signalled. -/
  signalled : Bool
  /-- A submission that will signal it has not completed. -/
  pending : Bool := false
deriving DecidableEq, Repr

/-- The rules for a command, and for one that waits: it returns when the last submission with its
fence has completed. -/
def Respects (fences : Handle → Fence) : VkCommand → Prop
  | .queueSubmit _ _ _ (some fence) =>
    (fences fence).signalled = false ∧ (fences fence).pending = false
  | .queueSubmit _ _ _ none => True
  | .waitForFences fence _ => (fences fence).pending = false
  | .resetFences fence => (fences fence).pending = false

/-- Whether a command respects the rules is read off the fences. -/
instance decidableRespects (fences : Handle → Fence) :
    ∀ command, Decidable (Respects fences command)
  | .queueSubmit _ _ _ (some fence) =>
    inferInstanceAs (Decidable ((fences fence).signalled = false ∧ (fences fence).pending = false))
  | .queueSubmit _ _ _ none => inferInstanceAs (Decidable True)
  | .waitForFences fence _ => inferInstanceAs (Decidable ((fences fence).pending = false))
  | .resetFences fence => inferInstanceAs (Decidable ((fences fence).pending = false))

/-- The fences after a command that succeeds. A wait succeeds on a signalled fence only. -/
def execute (fences : Handle → Fence) : VkCommand → Option (Handle → Fence)
  | .queueSubmit _ _ _ (some fence) =>
    some (Function.update fences fence { fences fence with pending := true })
  | .queueSubmit _ _ _ none => some fences
  | .waitForFences fence _ => if (fences fence).signalled then some fences else none
  | .resetFences fence =>
    some (Function.update fences fence { fences fence with signalled := false })

/-- The fences after commands that succeed. -/
def executeAll (fences : Handle → Fence) (commands : List VkCommand) : Option (Handle → Fence) :=
  commands.foldlM execute fences

/-- Every command respects the rules when it is issued. -/
def RespectAll (fences : Handle → Fence) : List VkCommand → Prop
  | [] => True
  | command :: rest =>
    Respects fences command ∧
      (execute fences command).elim True fun fences => RespectAll fences rest

/-- Whether all do is decided command by command. -/
instance decidableRespectAll :
    ∀ (fences : Handle → Fence) (commands : List VkCommand), Decidable (RespectAll fences commands)
  | _, [] => inferInstanceAs (Decidable True)
  | fences, command :: rest =>
    match next : execute fences command with
    | none => decidable_of_iff (Respects fences command ∧ True) (by simp [RespectAll, next])
    | some fences' =>
      have := decidableRespectAll fences' rest
      decidable_of_iff (Respects fences command ∧ RespectAll fences' rest)
        (by simp [RespectAll, next])

/-- A swapchain and the fences. -/
structure Fenced where
  /-- The swapchain. -/
  swapchain : SwapchainState
  /-- The fences. -/
  fences : Handle → Fence

/-- A call of the application, or the completion of a submission. -/
inductive FenceStep where
  /-- A call. -/
  | call (call : Call)
  /-- The submission with that fence completes. -/
  | complete (fence : Handle)
deriving DecidableEq, Repr

/-- A swapchain with fresh images: its fences are signalled. -/
def fenced (images : List SwapchainImage) (isStatic : Bool) : System Fenced FenceStep where
  init := { swapchain := .create images isStatic, fences := fun _ => { signalled := true } }
  step s
    | .call call =>
      (s.swapchain.call succeeding call).bind fun outcome =>
        (executeAll s.fences outcome.issued).map fun fences =>
          { swapchain := outcome.state, fences }
    | .complete fence =>
      if (s.fences fence).pending then
        some { s with fences := Function.update s.fences fence { signalled := true } }
      else none

/-- The commands of a step respect the rules. -/
def Disciplined (s : Fenced) : FenceStep → Prop
  | .call call =>
    (s.swapchain.call succeeding call).elim True fun outcome => RespectAll s.fences outcome.issued
  | .complete _ => True

/-- The commands decide. -/
instance decidableDisciplined (s : Fenced) : ∀ step, Decidable (Disciplined s step)
  | .call call =>
    match answer : s.swapchain.call succeeding call with
    | none => decidable_of_iff True (by simp [Disciplined, answer])
    | some outcome =>
      decidable_of_iff (RespectAll s.fences outcome.issued) (by simp [Disciplined, answer])
  | .complete _ => inferInstanceAs (Decidable True)

section

variable {images : List SwapchainImage} {isStatic : Bool}

/-- Before any acquire a wait or a release is refused. -/
theorem fenced_refuses {call : Call} (other : call ≠ .acquire) :
    ∃ result, (SwapchainState.create images isStatic).call succeeding call =
      some ((SwapchainState.create images isStatic).refuse result) := by
  cases call with
  | acquire => contradiction
  | wait timeout => exact ⟨_, SwapchainState.wait_refused succeeding timeout (.inl rfl)⟩
  | release => exact ⟨_, SwapchainState.release_refused succeeding (.inl rfl)⟩

/-- The first acquire passes a fence that is signalled. -/
theorem first_acquire_undisciplined (nonempty : images ≠ [])
    (fresh : ∀ image ∈ images, image.hasBeenAcquired = false) :
    ¬Disciplined (fenced images isStatic).init (.call .acquire) := by
  obtain ⟨image, rest, rfl⟩ := List.exists_cons_of_ne_nil nonempty
  have unused : image.hasBeenAcquired = false := fresh image (by simp)
  have answer : (SwapchainState.create (image :: rest) isStatic).acquire succeeding = _ :=
    SwapchainState.acquire_succeeds (by simp [SwapchainState.create]) rfl (by simp [unused]) rfl
  simp [Disciplined, fenced, SwapchainState.call, answer, RespectAll, Respects,
    SwapchainState.acquireSubmit]

/-- Before any acquire a step other than one leaves everything as it is, and respects the rules. -/
theorem fenced_stays {step : FenceStep} {s : Fenced} (other : step ≠ .call .acquire)
    (taken : (fenced images isStatic).step (fenced images isStatic).init step = some s) :
    s = (fenced images isStatic).init ∧ Disciplined (fenced images isStatic).init step := by
  cases step with
  | call call =>
    have kind : call ≠ .acquire := by
      rintro rfl
      exact other rfl
    obtain ⟨result, answer⟩ := @fenced_refuses images isStatic call kind
    have same : (fenced images isStatic).step (fenced images isStatic).init (.call call) =
        some (fenced images isStatic).init := by
      simp [fenced, answer, SwapchainState.refuse, executeAll]
    rw [same] at taken
    refine ⟨(Option.some.inj taken).symm, ?_⟩
    simp [Disciplined, fenced, answer, SwapchainState.refuse, RespectAll]
  | complete fence => simp [fenced] at taken

/-- In every run from fresh images the fences are used by the rules, and waits return only when the
submission has completed, exactly when there is no acquire in the run. -/
theorem fences_disciplined (nonempty : images ≠ [])
    (fresh : ∀ image ∈ images, image.hasBeenAcquired = false) {steps : List FenceStep} {s : Fenced}
    (ran : (fenced images isStatic).run (fenced images isStatic).init steps = some s) :
    (fenced images isStatic).Along Disciplined (fenced images isStatic).init steps ↔
      .call .acquire ∉ steps := by
  induction steps with
  | nil => simp [System.Along]
  | cons step rest ih =>
    obtain ⟨middle, taken, ran⟩ := Option.bind_eq_some_iff.mp ran
    rw [System.Along, taken, Option.elim_some, List.mem_cons, not_or]
    by_cases first : step = .call .acquire
    · subst first
      have broken := @first_acquire_undisciplined images isStatic nonempty fresh
      simp [broken]
    · obtain ⟨rfl, fine⟩ := fenced_stays first taken
      rw [ih ran]
      simp [fine, Ne.symm first]

end

/-- The first round of an image: the acquire passes a signalled fence, so that the wait returns at
once, and the release resets the fence of a submission that has not completed. -/
def firstRound : List FenceStep := [.call .acquire, .call (.wait 0), .call .release]

/-- Two fresh images. -/
def freshImages : List SwapchainImage := [⟨1, 2, 3, 4, 5, false⟩, ⟨6, 7, 8, 9, 10, false⟩]

/-- The first round is a run. -/
theorem firstRound_runs :
    ∃ s, (fenced freshImages false).run (fenced freshImages false).init firstRound = some s :=
  Option.isSome_iff_exists.mp rfl

/-- It has an acquire, so not all of it is as it should be. -/
theorem fences_disciplined_firstRound :
    (fenced freshImages false).Along Disciplined (fenced freshImages false).init firstRound ↔
      .call .acquire ∉ firstRound := by
  obtain ⟨s, ran⟩ := firstRound_runs
  exact fences_disciplined (by decide) (by decide) ran

/-- None of its three calls does what it should. -/
theorem firstRound_undisciplined :
    ∃ s, (fenced freshImages false).run (fenced freshImages false).init firstRound = some s ∧
      ¬(fenced freshImages false).Along Disciplined (fenced freshImages false).init firstRound := by
  obtain ⟨s, ran⟩ := firstRound_runs
  exact ⟨s, ran, by decide⟩

end XrTransport.Vulkan.Client
