/-!
# Deterministic machines with outputs

A Mealy machine answers every input with an output and a next state. Two machines are compared
by their traces of outputs. When a relation between their states is kept by every input the
second machine calls good, and every other input is answered differently at once, their traces
agree exactly on the input lists that are good throughout (`trace_eq_iff`).
-/
namespace XrTransport

universe u v w

/-- A machine that answers each input `ι` with an output `ο` and moves to a next state `σ`. -/
structure Mealy (σ : Type u) (ι : Type v) (ο : Type w) where
  /-- The answer to one input and the state after it. -/
  step : σ → ι → ο × σ

namespace Mealy

variable {σ τ : Type u} {ι : Type v} {ο : Type w}

/-- The outputs of a list of inputs, in order. -/
def trace (machine : Mealy σ ι ο) : σ → List ι → List ο
  | _, [] => []
  | state, input :: rest =>
    (machine.step state input).1 :: machine.trace (machine.step state input).2 rest

/-- The state after a list of inputs. -/
def run (machine : Mealy σ ι ο) : σ → List ι → σ
  | state, [] => state
  | state, input :: rest => machine.run (machine.step state input).2 rest

/-- Every input of the list is good in the state the machine takes it in. -/
def Along (machine : Mealy σ ι ο) (good : σ → ι → Prop) : σ → List ι → Prop
  | _, [] => True
  | state, input :: rest =>
    good state input ∧ machine.Along good (machine.step state input).2 rest

/-- Goodness along a list is decided input by input. -/
instance decidableAlong (machine : Mealy σ ι ο) (good : σ → ι → Prop)
    [∀ state input, Decidable (good state input)] :
    ∀ state inputs, Decidable (machine.Along good state inputs)
  | _, [] => inferInstanceAs (Decidable True)
  | state, input :: rest =>
    have := machine.decidableAlong good (machine.step state input).2 rest
    inferInstanceAs (Decidable (_ ∧ _))

/-- Running two lists in order runs the second from the state the first ends in. -/
theorem run_append (machine : Mealy σ ι ο) (state : σ) (first second : List ι) :
    machine.run state (first ++ second) = machine.run (machine.run state first) second := by
  induction first generalizing state with
  | nil => rfl
  | cons input rest ih => exact ih _

/-- Every input is good along a list when an invariant of the machine makes every input good. -/
theorem along_of_invariant (machine : Mealy σ ι ο) (good : σ → ι → Prop)
    (invariant : σ → Prop)
    (kept : ∀ state input, invariant state → invariant (machine.step state input).2)
    (enough : ∀ state input, invariant state → good state input)
    (state : σ) (inputs : List ι) (holds : invariant state) :
    machine.Along good state inputs := by
  induction inputs generalizing state with
  | nil => trivial
  | cons input rest ih => exact ⟨enough state input holds, ih _ (kept state input holds)⟩

/-- Related machines answer alike along exactly the input lists that stay good, when a good
input is answered alike and keeps the relation and any other input is answered differently. -/
theorem trace_eq_iff (left : Mealy σ ι ο) (right : Mealy τ ι ο) (related : σ → τ → Prop)
    (good : τ → ι → Prop)
    (agree : ∀ s t input, related s t → good t input →
      (left.step s input).1 = (right.step t input).1 ∧
        related (left.step s input).2 (right.step t input).2)
    (differ : ∀ s t input, related s t → ¬good t input →
      (left.step s input).1 ≠ (right.step t input).1)
    (s : σ) (t : τ) (inputs : List ι) (start : related s t) :
    left.trace s inputs = right.trace t inputs ↔ right.Along good t inputs := by
  induction inputs generalizing s t with
  | nil => simp [trace, Along]
  | cons input rest ih =>
    simp only [trace, Along, List.cons.injEq]
    by_cases fine : good t input
    · obtain ⟨same, next⟩ := agree s t input start fine
      simp only [same, fine, true_and]
      exact ih _ _ next
    · simp only [fine, false_and, iff_false, not_and]
      intro same
      exact absurd same (differ s t input start fine)

end Mealy

end XrTransport
