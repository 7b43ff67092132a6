import Mathlib.Data.List.Basic

/-!
# Transition systems

A system starts in one state and takes labelled steps; a label determines the next state, or is not
possible. `Reachable` collects the states of all runs whose steps satisfy a condition on the state
before the step and the label. What the first state satisfies and every such step keeps holds in
every reachable state.
-/
namespace XrTransport

universe u v

/-- States `σ` and labelled steps between them. -/
structure System (σ : Type u) (α : Type v) where
  /-- The first state. -/
  init : σ
  /-- The state after a step, if the step is possible. -/
  step : σ → α → Option σ

namespace System

variable {σ : Type u} {α : Type v}

/-- The states of the runs whose steps are all allowed. -/
inductive Reachable (system : System σ α) (allowed : σ → α → Prop) : σ → Prop where
  /-- The first state is reached without a step. -/
  | init : Reachable system allowed system.init
  /-- An allowed step leads from a reachable state to a reachable state. -/
  | step {s s' : σ} {label : α} (before : Reachable system allowed s) (fine : allowed s label)
      (taken : system.step s label = some s') : Reachable system allowed s'

/-- The state after a list of steps. -/
def run (system : System σ α) : σ → List α → Option σ
  | s, [] => some s
  | s, label :: rest => (system.step s label).bind fun s' => system.run s' rest

/-- Every step of a list is allowed in the state it is taken in. -/
def Along (system : System σ α) (allowed : σ → α → Prop) : σ → List α → Prop
  | _, [] => True
  | s, label :: rest =>
    allowed s label ∧ (system.step s label).elim True fun s' => system.Along allowed s' rest

/-- Whether all steps of a list are allowed is decided step by step. -/
instance decidableAlong (system : System σ α) (allowed : σ → α → Prop)
    [∀ s label, Decidable (allowed s label)] :
    ∀ s labels, Decidable (system.Along allowed s labels)
  | _, [] => inferInstanceAs (Decidable True)
  | s, label :: rest =>
    match step : system.step s label with
    | none => decidable_of_iff (allowed s label ∧ True) (by simp [Along, step])
    | some s' =>
      have := system.decidableAlong allowed s' rest
      decidable_of_iff (allowed s label ∧ system.Along allowed s' rest) (by simp [Along, step])

/-- What holds at first and is kept by every allowed step holds in every reachable state. -/
theorem Reachable.invariant {system : System σ α} {allowed : σ → α → Prop} (holds : σ → Prop)
    (first : holds system.init)
    (kept : ∀ s label s', holds s → allowed s label → system.step s label = some s' → holds s')
    {s : σ} (reachable : system.Reachable allowed s) : holds s := by
  induction reachable with
  | init => exact first
  | step _ fine taken ih => exact kept _ _ _ ih fine taken

/-- A run of allowed steps stays among the reachable states. -/
theorem Reachable.run {system : System σ α} {allowed : σ → α → Prop} {s s' : σ}
    {labels : List α} (reachable : system.Reachable allowed s)
    (fine : system.Along allowed s labels) (ran : system.run s labels = some s') :
    system.Reachable allowed s' := by
  induction labels generalizing s with
  | nil =>
    obtain rfl := Option.some.inj ran
    exact reachable
  | cons label rest ih =>
    obtain ⟨middle, taken, ran⟩ := Option.bind_eq_some_iff.mp ran
    rw [Along, taken] at fine
    exact ih (reachable.step fine.1 taken) fine.2 ran

/-- Steps that are allowed in every state are allowed along every run. -/
theorem along_of_forall (system : System σ α) {allowed : σ → α → Prop} {labels : List α}
    (fine : ∀ s, ∀ label ∈ labels, allowed s label) (s : σ) : system.Along allowed s labels := by
  induction labels generalizing s with
  | nil => trivial
  | cons label rest ih =>
    refine ⟨fine s label (by simp), ?_⟩
    cases system.step s label with
    | none => trivial
    | some s' => exact ih (fun s label member => fine s label (by simp [member])) s'

/-- A run of allowed steps is one under any weaker condition. -/
theorem Along.mono {system : System σ α} {allowed wider : σ → α → Prop}
    (weaker : ∀ s label, allowed s label → wider s label) {s : σ} {labels : List α}
    (fine : system.Along allowed s labels) : system.Along wider s labels := by
  induction labels generalizing s with
  | nil => trivial
  | cons label rest ih =>
    refine ⟨weaker s label fine.1, ?_⟩
    have further := fine.2
    cases taken : system.step s label with
    | none => trivial
    | some s' =>
      rw [taken] at further
      exact ih further

/-- Along a run from a state with an invariant it is enough to compare two conditions where the
invariant holds. -/
theorem along_congr (system : System σ α) {holds : σ → Prop} {one two : σ → α → Prop}
    (kept : ∀ s label s', holds s → system.step s label = some s' → holds s')
    (same : ∀ s label, holds s → (one s label ↔ two s label)) {s : σ} {labels : List α}
    (first : holds s) : system.Along one s labels ↔ system.Along two s labels := by
  induction labels generalizing s with
  | nil => exact Iff.rfl
  | cons label rest ih =>
    refine and_congr (same s label first) ?_
    cases taken : system.step s label with
    | none => exact Iff.rfl
    | some s' => exact ih (kept s label s' first taken)

/-- Without a condition the state after every run is reachable. -/
theorem reachable_of_run {system : System σ α} {s : σ} {labels : List α}
    (ran : system.run system.init labels = some s) : system.Reachable (fun _ _ => True) s :=
  Reachable.run .init (system.along_of_forall (fun _ _ _ => trivial) _) ran

/-- When a step from a state with an invariant keeps what holds exactly if it is allowed, a run
keeps it throughout exactly if it is allowed throughout. -/
theorem along_holds_iff_of_invariant (system : System σ α) {sound holds : σ → Prop}
    {allowed : σ → α → Prop}
    (kept : ∀ s label s', sound s → holds s → system.step s label = some s' → sound s')
    (exact_ : ∀ s label s', sound s → holds s → system.step s label = some s' →
      (holds s' ↔ allowed s label)) {s s' : σ} {labels : List α} (start : sound s)
    (first : holds s) (ran : system.run s labels = some s') :
    (system.Along (fun s _ => holds s) s labels ∧ holds s') ↔ system.Along allowed s labels := by
  induction labels generalizing s with
  | nil =>
    obtain rfl := Option.some.inj ran
    exact ⟨fun _ => trivial, fun _ => ⟨trivial, first⟩⟩
  | cons label rest ih =>
    obtain ⟨middle, taken, ran⟩ := Option.bind_eq_some_iff.mp ran
    have same := exact_ s label middle start first taken
    have further := kept s label middle start first taken
    simp only [Along, taken, Option.elim_some]
    constructor
    · rintro ⟨⟨_, along⟩, last⟩
      have second : holds middle := by
        cases rest with
        | nil =>
          obtain rfl := Option.some.inj ran
          exact last
        | cons next rest => exact along.1
      exact ⟨same.mp second, (ih further second ran).mp ⟨along, last⟩⟩
    · rintro ⟨allows, along⟩
      obtain ⟨along, last⟩ := (ih further (same.mpr allows) ran).mpr along
      exact ⟨⟨first, along⟩, last⟩

/-- When a step keeps what holds exactly if it is allowed, a run keeps it throughout exactly if it
is allowed throughout. -/
theorem along_holds_iff (system : System σ α) {holds : σ → Prop} {allowed : σ → α → Prop}
    (exact_ : ∀ s label s', holds s → system.step s label = some s' →
      (holds s' ↔ allowed s label)) {s s' : σ} {labels : List α} (first : holds s)
    (ran : system.run s labels = some s') :
    (system.Along (fun s _ => holds s) s labels ∧ holds s') ↔ system.Along allowed s labels :=
  system.along_holds_iff_of_invariant (fun _ _ _ _ _ _ => trivial)
    (fun s label s' (_ : True) => exact_ s label s') trivial first ran

/-- A weaker condition allows more. -/
theorem Reachable.mono {system : System σ α} {allowed wider : σ → α → Prop}
    (weaker : ∀ s label, allowed s label → wider s label) {s : σ}
    (reachable : system.Reachable allowed s) : system.Reachable wider s := by
  induction reachable with
  | init => exact .init
  | step _ fine taken ih => exact ih.step (weaker _ _ fine) taken

end System

end XrTransport
