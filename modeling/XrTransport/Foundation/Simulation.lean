import Mathlib.Algebra.Group.Defs
import Mathlib.Data.List.Induction
import XrTransport.Foundation.Transition

/-!
# Simulation of transition systems

A step of the lower system is matched by a few steps of the upper one, often by none. When related
states stay related, every run of the lower system is matched by a run of the upper one. In the same
way what each step costs adds up along a run.
-/
namespace XrTransport.System

universe u v w x

variable {σ : Type u} {α : Type v} {τ : Type w} {β : Type x}

/-- A run in two parts. -/
theorem run_append (system : System σ α) (s : σ) (first second : List α) :
    system.run s (first ++ second) =
      (system.run s first).bind fun s' => system.run s' second := by
  induction first generalizing s with
  | nil => rfl
  | cons label rest ih =>
    simp only [List.cons_append, run, Option.bind_assoc]
    exact congrArg (Option.bind _) (funext fun s' => ih s')

/-- The labels of the upper system along a run of the lower one. -/
def trace (system : System σ α) (sees : σ → α → List β) : σ → List α → List β
  | _, [] => []
  | s, label :: rest =>
    sees s label ++ (system.step s label).elim [] fun s' => system.trace sees s' rest

/-- What a run shows when it takes a step first. -/
theorem trace_cons {system : System σ α} {sees : σ → α → List β} {s s' : σ} {label : α}
    (taken : system.step s label = some s') (rest : List α) :
    system.trace sees s (label :: rest) = sees s label ++ system.trace sees s' rest := by
  rw [trace, taken, Option.elim_some]

/-- Steps that are matched make runs that are matched. -/
theorem run_simulates {lower : System σ α} (upper : System τ β) (sees : σ → α → List β)
    (related : σ → τ → Prop)
    (matched : ∀ s label s' t, related s t → lower.step s label = some s' →
      ∃ t', upper.run t (sees s label) = some t' ∧ related s' t')
    {s s' : σ} {t : τ} {labels : List α} (start : related s t)
    (ran : lower.run s labels = some s') :
    ∃ t', upper.run t (lower.trace sees s labels) = some t' ∧ related s' t' := by
  induction labels generalizing s t with
  | nil =>
    obtain rfl := Option.some.inj ran
    exact ⟨t, rfl, start⟩
  | cons label rest ih =>
    obtain ⟨middle, taken, ran⟩ := Option.bind_eq_some_iff.mp ran
    obtain ⟨t₁, first, related'⟩ := matched s label middle t start taken
    obtain ⟨t₂, second, last⟩ := ih related' ran
    refine ⟨t₂, ?_, last⟩
    rw [trace_cons taken, run_append, first]
    exact second

/-- What goes in behind what is there and comes out in front of it keeps its order along a run. -/
theorem run_queues {system : System σ α} {inside : σ → List β} {enters leaves : σ → α → List β}
    (kept : ∀ s label s', system.step s label = some s' →
      inside s ++ enters s label = leaves s label ++ inside s')
    {s s' : σ} {labels : List α} (ran : system.run s labels = some s') :
    inside s ++ system.trace enters s labels = system.trace leaves s labels ++ inside s' := by
  induction labels generalizing s with
  | nil =>
    obtain rfl := Option.some.inj ran
    rw [trace, trace, List.append_nil, List.nil_append]
  | cons label rest ih =>
    obtain ⟨middle, taken, ran⟩ := Option.bind_eq_some_iff.mp ran
    rw [trace_cons taken, trace_cons taken, ← List.append_assoc, kept s label middle taken,
      List.append_assoc, List.append_assoc, ih ran]

/-- A run with a step behind it. -/
theorem run_concat_eq_some {system : System σ α} {s s' : σ} {labels : List α} {label : α} :
    system.run s (labels ++ [label]) = some s' ↔
      ∃ middle, system.run s labels = some middle ∧ system.step middle label = some s' := by
  rw [run_append, Option.bind_eq_some_iff]
  simp [run]

/-- Each entry of a log that grows by one entry at a time has been written by one step of the run.
-/
theorem exists_step_of_logged {system : System σ α} {log : σ → List β}
    (grows : ∀ s label s', system.step s label = some s' →
      log s' = log s ∨ ∃ entry, log s' = log s ++ [entry])
    {s s' : σ} {labels : List α} (empty : log s = []) (ran : system.run s labels = some s')
    {earlier later : List β} {entry : β} (logged : log s' = earlier ++ entry :: later) :
    ∃ front label back before after, labels = front ++ label :: back ∧
      system.run s front = some before ∧ system.step before label = some after ∧
      log before = earlier ∧ log after = earlier ++ [entry] := by
  induction labels using List.reverseRecOn generalizing s' later with
  | nil =>
    obtain rfl := Option.some.inj ran
    rw [empty] at logged
    exact absurd logged (by simp)
  | append_singleton labels label ih =>
    obtain ⟨middle, ran, taken⟩ := run_concat_eq_some.mp ran
    -- the entry is the last one of the log, or was there before the last step
    have further : ∀ later', log middle = earlier ++ entry :: later' →
        ∃ front label' back before after, labels ++ [label] = front ++ label' :: back ∧
          system.run s front = some before ∧ system.step before label' = some after ∧
          log before = earlier ∧ log after = earlier ++ [entry] := by
      intro later' written
      obtain ⟨front, label', back, before, after, rfl, rest⟩ := ih ran written
      exact ⟨front, label', back ++ [label], before, after, by simp, rest⟩
    obtain same | ⟨last, grown⟩ := grows middle label s' taken
    · rw [same] at logged
      exact further later logged
    · obtain rfl | ⟨later', x, rfl⟩ := List.eq_nil_or_concat later
      · rw [grown] at logged
        obtain ⟨old, new⟩ := List.append_inj' logged rfl
        obtain rfl := List.singleton_inj.mp new
        exact ⟨labels, label, [], middle, s', rfl, ran, taken, old, by rw [grown, old]⟩
      · have written : log middle ++ [last] = (earlier ++ entry :: later') ++ [x] := by
          rw [← grown, logged]
          simp
        exact further later' (List.append_inj' written rfl).1

/-! ## Counting along a run -/

section

variable {M : Type w} [AddMonoid M]

/-- What the steps of a run cost together. -/
def tally (system : System σ α) (cost : σ → α → M) : σ → List α → M
  | _, [] => 0
  | s, label :: rest =>
    cost s label + (system.step s label).elim 0 fun s' => system.tally cost s' rest

/-- When every allowed step adds its cost to what holds, a run adds the cost of its steps. -/
theorem run_counts {system : System σ α} {allowed : σ → α → Prop} {cost : σ → α → M}
    (holds : M → σ → Prop)
    (kept : ∀ count s label s', holds count s → allowed s label → system.step s label = some s' →
      holds (count + cost s label) s')
    {count : M} {s s' : σ} {labels : List α} (start : holds count s)
    (fine : system.Along allowed s labels) (ran : system.run s labels = some s') :
    holds (count + system.tally cost s labels) s' := by
  induction labels generalizing count s with
  | nil =>
    obtain rfl := Option.some.inj ran
    rw [tally, add_zero]
    exact start
  | cons label rest ih =>
    obtain ⟨middle, taken, ran⟩ := Option.bind_eq_some_iff.mp ran
    rw [Along, taken] at fine
    rw [tally, taken, Option.elim_some, ← add_assoc]
    exact ih (kept count s label middle start fine.1 taken) fine.2 ran

end

end XrTransport.System
