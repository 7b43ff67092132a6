import Mathlib.Data.List.Induction
import XrTransport.Foundation.Program

/-!
# Late binding

A cell is bound when it is first needed, to what the surroundings offer at that time, and every use
reads what it is bound to. The surroundings change on their own. A history lists what happens;
`cells_eq_some_iff` and `mem_notes_iff` say what its uses read.

A plan lists what a program does with the cells and what else it needs in order to go on. `Follows`
says that a program does what its plan says, up to the first stage that fails.
-/
namespace XrTransport.LateBinding

universe u v w

/-- What happens to cells `κ` and to surroundings that change by `ω`. -/
inductive Event (κ : Type u) (ω : Type v) where
  /-- A cell is bound. -/
  | bind (cell : κ)
  /-- A cell is used. -/
  | use (cell : κ)
  /-- The surroundings change. -/
  | change (what : ω)
deriving DecidableEq, Repr

/-- The surroundings `ε`, what the cells are bound to, and the notes `γ` taken of their uses. -/
structure Store (κ ε β γ : Type*) where
  /-- The surroundings. -/
  env : ε
  /-- What each cell is bound to. -/
  cells : κ → Option β
  /-- The uses so far. -/
  notes : List γ

/-- How surroundings change, what they offer, and what is noted of a use. -/
structure Rules (κ ε ω β γ : Type*) where
  /-- A change of the surroundings. -/
  move : ε → ω → ε
  /-- What a cell is bound to. -/
  offer : ε → β
  /-- The note of a use. -/
  note : κ → Option β → ε → γ

variable {κ : Type u} {ω : Type v} {ε β γ : Type*}

/-- Where an element is in a list: at its head or behind. -/
theorem exists_split_cons {α : Type*} {x head : α} {tail : List α}
    {holds : List α → List α → Prop} :
    (∃ early late, head :: tail = early ++ x :: late ∧ holds early late) ↔
      (head = x ∧ holds [] tail) ∨
      ∃ early late, tail = early ++ x :: late ∧ holds (head :: early) late := by
  constructor
  · rintro ⟨early, late, whole, fits⟩
    obtain ⟨rfl, same⟩ | ⟨early, rfl, behind⟩ := List.cons_eq_append_iff.mp whole
    · obtain ⟨rfl, rfl⟩ := List.cons.inj same
      exact .inl ⟨rfl, fits⟩
    · exact .inr ⟨early, late, behind, fits⟩
  · rintro (⟨rfl, fits⟩ | ⟨early, late, rfl, fits⟩)
    · exact ⟨[], tail, rfl, fits⟩
    · exact ⟨head :: early, late, rfl, fits⟩

namespace Rules

variable (rules : Rules κ ε ω β γ)

/-- The surroundings after a history. -/
def around (env : ε) : List (Event κ ω) → ε
  | [] => env
  | .change what :: rest => around (rules.move env what) rest
  | .bind _ :: rest | .use _ :: rest => around env rest

/-- The surroundings after one history and another. -/
theorem around_append {rules : Rules κ ε ω β γ} (env : ε) (first second : List (Event κ ω)) :
    rules.around env (first ++ second) = rules.around (rules.around env first) second := by
  induction first generalizing env with
  | nil => rfl
  | cons event rest ih =>
    cases event with
    | bind cell => exact ih env
    | use cell => exact ih env
    | change what => exact ih (rules.move env what)

variable [DecidableEq κ]

/-- What an event does. -/
def after (store : Store κ ε β γ) : Event κ ω → Store κ ε β γ
  | .bind cell =>
    { store with cells := Function.update store.cells cell (some (rules.offer store.env)) }
  | .use cell =>
    { store with notes := store.notes ++ [rules.note cell (store.cells cell) store.env] }
  | .change what => { store with env := rules.move store.env what }

/-- What a history does. -/
def replay (store : Store κ ε β γ) (history : List (Event κ ω)) : Store κ ε β γ :=
  history.foldl rules.after store

variable {rules} {store : Store κ ε β γ} {history : List (Event κ ω)}

/-- One history after another. -/
theorem replay_append (first second : List (Event κ ω)) :
    rules.replay store (first ++ second) = rules.replay (rules.replay store first) second :=
  List.foldl_append

/-- The surroundings after an event and a history. -/
theorem around_cons (event : Event κ ω) :
    rules.around store.env (event :: history) =
      rules.around (rules.after store event).env history := by
  cases event <;> rfl

/-- A cell is bound to what the surroundings offered when it was last bound. -/
theorem cells_eq_some_iff {cell : κ} {bound : β} :
    (rules.replay store history).cells cell = some bound ↔
      (∃ early late, history = early ++ .bind cell :: late ∧ .bind cell ∉ late ∧
        rules.offer (rules.around store.env early) = bound) ∨
      (.bind cell ∉ history ∧ store.cells cell = some bound) := by
  induction history generalizing store with
  | nil => simp [replay]
  | cons event rest ih =>
    have further := @ih (rules.after store event)
    rw [replay, List.foldl_cons, ← replay, further]
    -- it is bound again later on, or this event binds it, or nothing does
    simp only [exists_split_cons, around_cons, around]
    rw [or_comm (a := event = _ ∧ _), or_assoc]
    refine or_congr_right ?_
    by_cases binds : event = .bind cell
    · subst binds
      simp [after]
    · have kept : (rules.after store event).cells cell = store.cells cell := by
        cases event with
        | bind other =>
          have apart : cell ≠ other := fun same => binds (by rw [same])
          exact Function.update_of_ne apart _ _
        | use other => rfl
        | change what => rfl
      rw [kept]
      simp [binds, Ne.symm binds]

/-- The notes are those of the uses, each with what the cell was bound to. -/
theorem mem_notes_iff {note : γ} :
    note ∈ (rules.replay store history).notes ↔
      note ∈ store.notes ∨
      ∃ cell before after, history = before ++ .use cell :: after ∧
        note = rules.note cell ((rules.replay store before).cells cell)
          (rules.around store.env before) := by
  induction history generalizing store with
  | nil => simp [replay]
  | cons event rest ih =>
    have further := @ih (rules.after store event)
    rw [replay, List.foldl_cons, ← replay, further]
    simp only [exists_split_cons, exists_or, around_cons, replay, List.foldl_cons, List.foldl_nil,
      around]
    rw [← or_assoc]
    refine or_congr_left ?_
    cases event <;> simp [after]

end Rules

/-! ## Plans -/

/-- What a program does next. -/
inductive Stage (κ : Type u) (ω : Type v) where
  /-- It binds a cell unless that is bound, if this is granted. -/
  | load (cell : κ) (granted : Bool)
  /-- It uses a cell, which has to be bound. -/
  | use (cell : κ)
  /-- It needs something else. -/
  | need (holds : Bool)
  /-- It changes the surroundings. -/
  | change (what : ω)
deriving DecidableEq, Repr

namespace Stage

variable [DecidableEq κ] (bound : κ → Bool)

/-- What happens in a stage. -/
def events : Stage κ ω → List (Event κ ω)
  | .load cell granted => if bound cell = false ∧ granted = true then [.bind cell] else []
  | .use cell => [.use cell]
  | .need _ => []
  | .change what => [.change what]

/-- The program gets past a stage. -/
def passes : Stage κ ω → Bool
  | .load cell granted => bound cell || granted
  | .use cell => bound cell
  | .need holds => holds
  | .change _ => true

/-- The cells that are bound when it has. -/
def bindsAfter : Stage κ ω → κ → Bool
  | .load cell _ => Function.update bound cell true
  | _ => bound

end Stage

section

variable [DecidableEq κ]

/-- What happens in a plan, up to the first stage that fails. -/
def reached (bound : κ → Bool) : List (Stage κ ω) → List (Event κ ω)
  | [] => []
  | stage :: rest =>
    stage.events bound ++ if stage.passes bound then reached (stage.bindsAfter bound) rest else []

/-- No stage of a plan fails. -/
def completes (bound : κ → Bool) : List (Stage κ ω) → Bool
  | [] => true
  | stage :: rest => stage.passes bound && completes (stage.bindsAfter bound) rest

/-- The cells that are bound after a plan. -/
def boundAfter (bound : κ → Bool) : List (Stage κ ω) → κ → Bool
  | [] => bound
  | stage :: rest => boundAfter (stage.bindsAfter bound) rest

/-- What happens in one plan and then another. -/
theorem reached_append (bound : κ → Bool) (first second : List (Stage κ ω)) :
    reached bound (first ++ second) = reached bound first ++
      if completes bound first then reached (boundAfter bound first) second else [] := by
  induction first generalizing bound with
  | nil => rfl
  | cons stage rest ih =>
    rw [List.cons_append, reached, reached, completes, boundAfter, ih]
    cases stage.passes bound <;> simp

/-- Two plans complete if the first does and the second does after it. -/
theorem completes_append (bound : κ → Bool) (first second : List (Stage κ ω)) :
    completes bound (first ++ second) =
      (completes bound first && completes (boundAfter bound first) second) := by
  induction first generalizing bound with
  | nil => rfl
  | cons stage rest ih =>
    rw [List.cons_append, completes, completes, boundAfter, ih, Bool.and_assoc]

/-- Which cells are bound. -/
def Store.bound (store : Store κ ε β γ) (cell : κ) : Bool := (store.cells cell).isSome

variable {rules : Rules κ ε ω β γ} {store : Store κ ε β γ}

/-- A stage that is passed binds what it says. -/
theorem Stage.bound_after {stage : Stage κ ω} (passes : stage.passes store.bound = true) :
    (rules.replay store (stage.events store.bound)).bound = stage.bindsAfter store.bound := by
  funext other
  cases stage with
  | load cell granted =>
    simp only [Stage.passes, Bool.or_eq_true] at passes
    simp only [Stage.events, Stage.bindsAfter]
    split
    · by_cases same : other = cell
      · subst same
        simp [Rules.replay, Rules.after, Store.bound]
      · simp [Rules.replay, Rules.after, Store.bound, same]
    next kept =>
      by_cases same : other = cell
      · subst same
        rw [Function.update_self]
        grind [Rules.replay]
      · rw [Function.update_of_ne same]
        rfl
  | use cell => rfl
  | need holds => rfl
  | change what => rfl

/-- A plan that completes binds what it says. -/
theorem bound_after {plan : List (Stage κ ω)} (done : completes store.bound plan = true) :
    (rules.replay store (reached store.bound plan)).bound = boundAfter store.bound plan := by
  induction plan generalizing store with
  | nil => rfl
  | cons stage rest ih =>
    rw [completes, Bool.and_eq_true] at done
    have first : (rules.replay store (stage.events store.bound)).bound =
        stage.bindsAfter store.bound := Stage.bound_after done.1
    rw [reached, if_pos done.1, Rules.replay_append, boundAfter, ← first]
    exact ih (by rw [first]; exact done.2)

/-! ## Programs with plans -/

variable {σ : Type w} {φ : Type*}

/-- From any state whose `frame` is `r`, a program does to the store what its plan says. It returns
exactly if the plan completes, and leaves the frame `r'` then. -/
def Follows (rules : Rules κ ε ω β γ) (view : σ → Store κ ε β γ) (frame : σ → φ) (r r' : φ)
    (plan : List (Stage κ ω)) (program : Program σ PUnit.{w + 1}) : Prop :=
  ∀ s, frame s = r →
    view (program s).2 = rules.replay (view s) (reached (view s).bound plan) ∧
    if completes (view s).bound plan then
      (program s).1 = some ⟨⟩ ∧ frame (program s).2 = r'
    else (program s).1 = none

namespace Follows

variable {view : σ → Store κ ε β γ} {frame : σ → φ} {r r' r'' : φ}
  {first second plan : List (Stage κ ω)} {program next : Program σ PUnit.{w + 1}}

/-- Either the plan fails and the program throws, or the plan completes and the program returns with
the frame and the bound cells that it leaves. -/
theorem outcome (follows : Follows rules view frame r r' plan program) {s : σ}
    (start : frame s = r) :
    ∃ s', view s' = rules.replay (view s) (reached (view s).bound plan) ∧
      ((completes (view s).bound plan = false ∧ program s = (none, s')) ∨
        (completes (view s).bound plan = true ∧ program s = (some ⟨⟩, s') ∧ frame s' = r' ∧
          (view s').bound = boundAfter (view s).bound plan)) := by
  obtain ⟨did, ended⟩ := follows s start
  refine ⟨(program s).2, did, ?_⟩
  cases done : completes (view s).bound plan with
  | false =>
    rw [done, if_neg Bool.false_ne_true] at ended
    exact .inl ⟨rfl, Prod.ext ended rfl⟩
  | true =>
    rw [done, if_pos rfl] at ended
    refine .inr ⟨rfl, Prod.ext ended.1 rfl, ended.2, ?_⟩
    rw [did, bound_after done]

/-- One program after the other follows both plans. -/
theorem seq (left : Follows rules view frame r r' first program)
    (right : Follows rules view frame r' r'' second next) :
    Follows rules view frame r r'' (first ++ second) (program >>= fun _ => next) := by
  intro s start
  obtain ⟨s', did, ended⟩ := left.outcome start
  rw [Program.bind_apply, Program.andThen, reached_append, completes_append]
  rcases ended with ⟨fails, threw⟩ | ⟨done, returned, there, bound⟩
  · simp [fails, threw, did]
  · have further := right s' there
    rw [bound, did] at further
    simpa [done, returned, Rules.replay_append] using further

/-- A program of one stage. -/
theorem stage {stage : Stage κ ω}
    (did : ∀ s, frame s = r →
      view (program s).2 = rules.replay (view s) (stage.events (view s).bound))
    (ended : ∀ s, frame s = r →
      if stage.passes (view s).bound then
        (program s).1 = some ⟨⟩ ∧ frame (program s).2 = r'
      else (program s).1 = none) :
    Follows rules view frame r r' [stage] program := by
  intro s start
  have single : reached (view s).bound [stage] = stage.events (view s).bound := by
    simp [reached]
  rw [single, completes, completes, Bool.and_true]
  exact ⟨did s start, ended s start⟩

/-- A program that has nothing to do with the store. -/
theorem silent (did : ∀ s, frame s = r →
      view (program s).2 = view s ∧ (program s).1 = some ⟨⟩ ∧ frame (program s).2 = r') :
    Follows rules view frame r r' [] program :=
  fun s start => did s start

/-- A program that throws lacks something it needs, whatever the rest of its plan is. -/
theorem fails (ends : ∀ s, frame s = r → (program s).1 = none ∧ view (program s).2 = view s) :
    Follows rules view frame r r' (.need false :: plan) program :=
  fun s start => ⟨(ends s start).2, (ends s start).1⟩

/-- A program followed by one that has nothing to do with the store. -/
theorem then_silent (left : Follows rules view frame r r' plan program)
    (right : Follows rules view frame r' r'' [] next) :
    Follows rules view frame r r'' plan (program >>= fun _ => next) := by
  have both := left.seq right
  rw [List.append_nil] at both
  exact both

/-- A program that has nothing to do with the store, followed by one. -/
theorem silent_then (left : Follows rules view frame r r' [] program)
    (right : Follows rules view frame r' r'' plan next) :
    Follows rules view frame r r'' plan (program >>= fun _ => next) :=
  left.seq right

/-- A program that reads the state. -/
theorem get {next : σ → Program σ PUnit.{w + 1}}
    (right : ∀ s, frame s = r → Follows rules view frame r r' plan (next s)) :
    Follows rules view frame r r' plan (Program.get >>= next) :=
  fun s start => right s start s start

/-- A loop whose body keeps the frame. -/
theorem forEach {ι : Type*} {items : List ι} {body : ι → Program σ PUnit.{w + 1}}
    {plan : ι → List (Stage κ ω)}
    (each : ∀ item, Follows rules view frame r r (plan item) (body item)) :
    Follows rules view frame r r (items.flatMap plan) (Program.forEach items body) := by
  induction items with
  | nil => exact silent fun s start => ⟨rfl, rfl, start⟩
  | cons item rest ih => exact (each item).seq ih

end Follows

/-- From any state whose `frame` is `r`, a program does to the store what its plan says, however it
ends. -/
def Performs (rules : Rules κ ε ω β γ) (view : σ → Store κ ε β γ) (frame : σ → φ) (r : φ)
    (plan : List (Stage κ ω)) (program : Program σ PUnit.{w + 1}) : Prop :=
  ∀ s, frame s = r →
    view (program s).2 = rules.replay (view s) (reached (view s).bound plan)

section

variable {view : σ → Store κ ε β γ} {frame : σ → φ} {r r' : φ}
  {first second plan : List (Stage κ ω)} {program next : Program σ PUnit.{w + 1}}

/-- What follows its plan performs it. -/
theorem Follows.performs (follows : Follows rules view frame r r' plan program) :
    Performs rules view frame r plan program :=
  fun s start => (follows s start).1

/-- After a program that follows its plan another one performs the rest. -/
theorem Follows.andThen (left : Follows rules view frame r r' first program)
    (right : Performs rules view frame r' second next) :
    Performs rules view frame r (first ++ second) (program >>= fun _ => next) := by
  intro s start
  obtain ⟨s', did, ended⟩ := left.outcome start
  rw [Program.bind_apply, Program.andThen, reached_append]
  rcases ended with ⟨fails, threw⟩ | ⟨done, returned, there, bound⟩
  · simp [fails, threw, did]
  · have further := right s' there
    rw [bound, did] at further
    simpa [done, returned, Rules.replay_append] using further

/-- A program that reads the state. -/
theorem Performs.get {next : σ → Program σ PUnit.{w + 1}}
    (right : ∀ s, frame s = r → Performs rules view frame r plan (next s)) :
    Performs rules view frame r plan (Program.get >>= next) :=
  fun s start => right s start s start

end

end

end XrTransport.LateBinding
