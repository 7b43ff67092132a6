import XrTransport.Foundation.Program

/-!
# Loops of programs

A loop carries a value from turn to turn until its body decides to stop. It has fuel, and without
fuel it throws. What the body keeps holds at the end; and a loop whose body lowers a measure below
the fuel never runs out of it.
-/
namespace XrTransport.Program

universe u v

variable {σ : Type u} {α β : Type v}

/-- Run the body from a carried value until it stops with a result. -/
def loop (body : β → Program σ (β ⊕ α)) : Nat → β → Program σ α
  | 0, _ => throw
  | fuel + 1, carried => body carried >>= Sum.elim (loop body fuel) pure

/-- What holds after one turn of a loop: the invariant for the next value, or what is returned. -/
def AfterTurn (invariant : β → σ → Prop) (returns : α → σ → Prop) (turn : β ⊕ α) (s : σ) : Prop :=
  turn.elim (fun carried => invariant carried s) fun value => returns value s

namespace Meets

variable {before throws : σ → Prop}

/-- An invariant that every turn keeps holds until the loop stops. -/
theorem loop {body : β → Program σ (β ⊕ α)} (invariant : β → σ → Prop)
    {returns : α → σ → Prop}
    (kept : ∀ carried, Meets (invariant carried) (body carried) (AfterTurn invariant returns)
      throws)
    (exhausted : ∀ carried s, invariant carried s → throws s) (fuel : Nat) (carried : β) :
    Meets (invariant carried) (Program.loop body fuel carried) returns throws := by
  induction fuel generalizing carried with
  | zero => exact throw (exhausted carried)
  | succ fuel ih =>
    apply bind (kept carried)
    intro turn
    cases turn with
    | inl next => exact ih next
    | inr value => exact pure fun s returned => returned

/-- A loop whose body lowers a measure does not run out of fuel above it. -/
theorem loop_total {body : β → Program σ (β ⊕ α)} (invariant : β → σ → Prop)
    (measure : β → σ → Nat) {returns : α → σ → Prop}
    (kept : ∀ carried bound, Meets (fun s => invariant carried s ∧ measure carried s ≤ bound)
      (body carried)
      (AfterTurn (fun next s => invariant next s ∧ measure next s < bound) returns) throws)
    {fuel : Nat} (carried : β) :
    Meets (fun s => invariant carried s ∧ measure carried s < fuel)
      (Program.loop body fuel carried) returns throws := by
  induction fuel generalizing carried with
  | zero =>
    intro s start
    exact absurd start.2 (Nat.not_lt_zero _)
  | succ fuel ih =>
    apply bind (consequence (kept carried fuel) ?_ (fun _ _ holds => holds) fun _ thrown => thrown)
    · intro turn
      cases turn with
      | inl next => exact ih next
      | inr value => exact pure fun s returned => returned
    · intro s start
      exact ⟨start.1, Nat.lt_succ_iff.mp start.2⟩

/-- Changing the state. -/
theorem modify {change : σ → σ} {returns : PUnit.{v + 1} → σ → Prop}
    (holds : ∀ s, before s → returns ⟨⟩ (change s)) :
    Meets before (Program.modify change) returns throws :=
  holds

/-- What holds whichever witness a precondition has holds if it has one. -/
theorem of_exists {ι : Sort*} {holds : ι → σ → Prop} {program : Program σ α}
    {returns : α → σ → Prop} (each : ∀ i, Meets (holds i) program returns throws) :
    Meets (fun s => ∃ i, holds i s) program returns throws := by
  rintro s ⟨i, start⟩
  exact each i s start

/-- A branch meets what both sides meet. -/
theorem ite {condition : Prop} [Decidable condition] {yes no : Program σ α}
    {returns : α → σ → Prop} (left : condition → Meets before yes returns throws)
    (right : ¬condition → Meets before no returns throws) :
    Meets before (if condition then yes else no) returns throws := by
  by_cases holds : condition
  · rw [if_pos holds]
    exact left holds
  · rw [if_neg holds]
    exact right holds

end Meets

end XrTransport.Program
