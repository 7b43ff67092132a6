import Mathlib.Data.List.Basic

/-!
# Programs with exceptions

A program runs from a state, ends with a value or by an exception, and leaves a state in both
cases. `Meets` is the rule of pre- and postconditions for such programs, with one postcondition for
each way to end; `Keeps` says that a program leaves one part of the state alone, `Tests` that such a
part alone decides whether the program returns, and `Refines` that a program does on a richer state
what another one does on a part of it.
-/
namespace XrTransport

universe u v

/-- A program over states `σ`. Without a value an exception has ended it. -/
def Program (σ : Type u) (α : Type v) := σ → Option α × σ

namespace Program

variable {σ : Type u} {α β : Type v}

/-- Return a value. -/
def ret (value : α) : Program σ α := fun s => (some value, s)

/-- Throw an exception. -/
def throw : Program σ α := fun s => (none, s)

/-- Run a program and then the one its value selects, unless the first throws. -/
def andThen (first : Program σ α) (next : α → Program σ β) : Program σ β := fun s =>
  match first s with
  | (some value, s') => next value s'
  | (none, s') => (none, s')

instance : Monad (Program.{u, v} σ) where
  pure := ret
  bind := andThen

/-- Read the state. -/
def get : Program σ σ := fun s => (some s, s)

/-- Change the state. -/
def modify (change : σ → σ) : Program σ PUnit.{v + 1} := fun s => (some ⟨⟩, change s)

/-- Run a program for each element of a list in order. -/
def forEach {ι : Type*} : List ι → (ι → Program σ PUnit.{v + 1}) → Program σ PUnit.{v + 1}
  | [], _ => ret ⟨⟩
  | item :: rest, body => andThen (body item) fun _ => forEach rest body

/-- Run a program for each element of a list in order and return the values. -/
def collect {ι : Type*} : List ι → (ι → Program σ α) → Program σ (List α)
  | [], _ => ret []
  | item :: rest, body =>
    andThen (body item) fun value => andThen (collect rest body) fun values =>
      ret (value :: values)

/-- Read a value that may be missing, as `std::optional::value` does. -/
def ofOption : Option α → Program σ α
  | some value => ret value
  | none => throw

/-- Run a program and return a value instead of an exception. -/
def caught (program : Program σ α) (instead : α) (s : σ) : α × σ :=
  ((program s).1.getD instead, (program s).2)

/-- `pure` returns. -/
@[simp] theorem pure_apply (value : α) (s : σ) :
    (pure value : Program σ α) s = (some value, s) :=
  rfl

/-- `bind` runs one program after the other. -/
theorem bind_apply (first : Program σ α) (next : α → Program σ β) (s : σ) :
    (first >>= next) s = andThen first next s :=
  rfl

/-- A loop that ends has collected a value for every item. -/
theorem collect_length {ι : Type*} {items : List ι} {body : ι → Program σ α} {values : List α}
    {s s' : σ} (ran : collect items body s = (some values, s')) : values.length = items.length := by
  induction items generalizing values s s' with
  | nil =>
    obtain rfl := Option.some.inj (Prod.mk.inj ran).1
    rfl
  | cons item rest ih =>
    rw [collect, andThen] at ran
    rcases first : body item s with ⟨_ | value, middle⟩
    · rw [first] at ran
      cases (Prod.mk.inj ran).1
    · rw [first] at ran
      dsimp only [andThen] at ran
      rcases later : collect rest body middle with ⟨_ | others, last⟩
      · rw [later] at ran
        cases (Prod.mk.inj ran).1
      · rw [later] at ran
        obtain rfl := Option.some.inj (Prod.mk.inj ran).1
        rw [List.length_cons, List.length_cons, ih later]

/-- Every run from a state of `before` ends in a state of `returns` with a value, or in one of
`throws` by an exception. -/
def Meets (before : σ → Prop) (program : Program σ α) (returns : α → σ → Prop)
    (throws : σ → Prop) : Prop :=
  ∀ s, before s → match program s with
    | (some value, s') => returns value s'
    | (none, s') => throws s'

namespace Meets

variable {before : σ → Prop} {throws : σ → Prop}

/-- Returning changes nothing. -/
theorem pure {value : α} {returns : α → σ → Prop}
    (holds : ∀ s, before s → returns value s) :
    Meets before (Pure.pure value) returns throws :=
  holds

/-- Throwing changes nothing. -/
theorem throw {returns : α → σ → Prop} (holds : ∀ s, before s → throws s) :
    Meets before Program.throw returns throws :=
  holds

/-- The postcondition of the first program is the precondition of the second. -/
theorem bind {first : Program σ α} {next : α → Program σ β} {between : α → σ → Prop}
    {returns : β → σ → Prop} (left : Meets before first between throws)
    (right : ∀ value, Meets (between value) (next value) returns throws) :
    Meets before (first >>= next) returns throws := by
  intro s start
  have ran := left s start
  rw [bind_apply, andThen]
  match ended : first s with
  | (none, s') =>
    rw [ended] at ran
    exact ran
  | (some value, s') =>
    rw [ended] at ran
    exact right value s' ran

/-- A fact about the values so far may be assumed. -/
theorem assuming {fact : Prop} {program : Program σ α} {returns : α → σ → Prop}
    (meets : fact → Meets before program returns throws) :
    Meets (fun s => fact ∧ before s) program returns throws :=
  fun s start => meets start.1 s start.2

/-- What follows a read runs from the state that was read. -/
theorem get {σ : Type u} {β : Type u} {before throws : σ → Prop} {next : σ → Program σ β}
    {returns : β → σ → Prop}
    (right : ∀ now, before now → Meets (fun s => s = now) (next now) returns throws) :
    Meets before (Program.get >>= next) returns throws :=
  fun s start => right s start s rfl

/-- A condition that the body keeps holds after the loop. -/
theorem forEach {ι : Type*} {items : List ι} {body : ι → Program σ PUnit.{v + 1}}
    (kept : ∀ item ∈ items, Meets before (body item) (fun _ => before) throws) :
    Meets before (Program.forEach items body) (fun _ => before) throws := by
  induction items with
  | nil => exact fun s start => start
  | cons item rest ih =>
    refine bind (kept item (by simp)) fun _ => ih fun item member => kept item ?_
    exact List.mem_cons_of_mem _ member

/-- What the body establishes for the elements so far holds for all of them after the loop. -/
theorem collect {ι : Type*} {body : ι → Program σ α} {holds : List ι → List α → σ → Prop}
    {items : List ι} (step : ∀ earlier item later values, items = earlier ++ item :: later →
      Meets (holds earlier values) (body item)
        (fun value => holds (earlier ++ [item]) (values ++ [value])) throws) :
    Meets (holds [] []) (Program.collect items body) (fun values => holds items values) throws := by
  suffices general : ∀ (left earlier : List ι) (values : List α), items = earlier ++ left →
      Meets (holds earlier values) (Program.collect left body)
        (fun more => holds items (values ++ more)) throws by
    simpa using general items [] [] rfl
  intro left
  induction left with
  | nil =>
    intro earlier values whole s start
    have final : holds items (values ++ []) s := by
      rw [whole, List.append_nil, List.append_nil]
      exact start
    exact final
  | cons item left ih =>
    intro earlier values whole
    refine bind (step earlier item left values whole) fun value => ?_
    have further := ih (earlier ++ [item]) (values ++ [value]) (by simpa using whole)
    refine bind further fun more => pure fun s holds => ?_
    simpa using holds

/-- Conditions may be strengthened before and weakened after. -/
theorem consequence {before' throws' : σ → Prop} {program : Program σ α}
    {returns returns' : α → σ → Prop} (meets : Meets before program returns throws)
    (stronger : ∀ s, before' s → before s)
    (returned : ∀ value s, returns value s → returns' value s)
    (thrown : ∀ s, throws s → throws' s) : Meets before' program returns' throws' := by
  intro s start
  have ran := meets s (stronger s start)
  match ended : program s with
  | (none, s') =>
    rw [ended] at ran
    exact thrown s' ran
  | (some value, s') =>
    rw [ended] at ran
    exact returned value s' ran

/-- A condition that is both postconditions holds in the state that is left. -/
theorem always {after : σ → Prop} {program : Program σ α}
    (meets : Meets before program (fun _ => after) after) {s : σ} (start : before s) :
    after (program s).2 := by
  have ran := meets s start
  match ended : program s with
  | (none, s') =>
    rw [ended] at ran
    exact ran
  | (some value, s') =>
    rw [ended] at ran
    exact ran

/-- What holds in the state that is left holds at both ends. -/
theorem of_always {after : σ → Prop} {program : Program σ α}
    (kept : ∀ s, before s → after (program s).2) :
    Meets before program (fun _ => after) after := by
  intro s start
  have left := kept s start
  match ended : program s with
  | (none, s') =>
    rw [ended] at left
    exact left
  | (some value, s') =>
    rw [ended] at left
    exact left

end Meets

/-- The program leaves a part of the state as it is. -/
def Keeps {γ : Type*} (part : σ → γ) (program : Program σ α) : Prop :=
  ∀ s, part (program s).2 = part s

namespace Keeps

variable {γ : Type*} {part : σ → γ}

/-- What is read off a part that is kept is kept. -/
theorem map {δ : Type*} {program : Program σ α} (kept : Keeps part program) (read : γ → δ) :
    Keeps (fun s => read (part s)) program :=
  fun s => congrArg read (kept s)

/-- Returning keeps everything. -/
theorem pure {value : α} : Keeps part (Pure.pure value : Program σ α) :=
  fun _ => rfl

/-- Throwing keeps everything. -/
theorem throw : Keeps part (Program.throw : Program σ α) :=
  fun _ => rfl

/-- Reading keeps everything. -/
theorem get : Keeps part (Program.get : Program σ σ) :=
  fun _ => rfl

/-- What both programs keep is kept by running them in order. -/
theorem bind {first : Program σ α} {next : α → Program σ β} (left : Keeps part first)
    (right : ∀ value, Keeps part (next value)) : Keeps part (first >>= next) := by
  intro s
  have kept := left s
  rw [bind_apply, andThen]
  match ended : first s with
  | (none, s') =>
    rw [ended] at kept
    exact kept
  | (some value, s') =>
    rw [ended] at kept
    exact (right value s').trans kept

/-- A loop keeps what its body keeps. -/
theorem forEach {ι : Type*} {items : List ι} {body : ι → Program σ PUnit.{v + 1}}
    (kept : ∀ item, Keeps part (body item)) : Keeps part (Program.forEach items body) := by
  induction items with
  | nil => exact fun _ => rfl
  | cons item rest ih => exact bind (kept item) fun _ => ih

/-- So does a loop that collects values. -/
theorem collect {ι : Type*} {items : List ι} {body : ι → Program σ α}
    (kept : ∀ item, Keeps part (body item)) : Keeps part (Program.collect items body) := by
  induction items with
  | nil => exact fun _ => rfl
  | cons item rest ih => exact bind (kept item) fun _ => bind ih fun _ => fun _ => rfl

/-- What holds of a part that is kept holds afterwards. -/
theorem meets {program : Program σ α} (kept : Keeps part program) (holds : γ → Prop) :
    Meets (fun s => holds (part s)) program (fun _ s => holds (part s))
      (fun s => holds (part s)) := by
  refine Meets.of_always fun s start => ?_
  rw [kept s]
  exact start

/-- A branch keeps what both sides keep. -/
theorem ite {condition : Prop} [Decidable condition] {yes no : Program σ α}
    (left : Keeps part yes) (right : Keeps part no) :
    Keeps part (if condition then yes else no) := by
  split
  · exact left
  · exact right

end Keeps

/-- The program ends with a value. -/
def Returns (program : Program σ α) (s : σ) : Prop := ∃ value s', program s = (some value, s')

/-- A program that throws does not return. -/
theorem not_returns {program : Program σ α} {s : σ} (thrown : (program s).1 = none) :
    ¬Returns program s := by
  rintro ⟨value, s', ended⟩
  rw [ended] at thrown
  cases thrown

/-- Two programs in order return if the first does and the second does from there. -/
theorem returns_bind {first : Program σ α} {next : α → Program σ β} {s : σ} :
    Returns (first >>= next) s ↔
      ∃ value s', first s = (some value, s') ∧ Returns (next value) s' := by
  rw [Returns, bind_apply, andThen]
  match ended : first s with
  | (none, s') => simp
  | (some value, s') => simp [Returns]

/-- The program leaves a part of the state as it is, and whether it returns depends only on it. -/
structure Tests {γ : Type*} (part : σ → γ) (program : Program σ α) (passes : γ → Prop) :
    Prop where
  /-- The part is kept. -/
  kept : Keeps part program
  /-- The program returns exactly if the part passes. -/
  returns : ∀ s, Returns program s ↔ passes (part s)

namespace Tests

variable {γ : Type*} {part : σ → γ}

/-- Returning tests nothing. -/
theorem pure {value : α} : Tests part (Pure.pure value : Program σ α) fun _ => True where
  kept := .pure
  returns s := iff_of_true ⟨value, s, rfl⟩ trivial

/-- Two programs in order test what both test. -/
theorem bind {first : Program σ α} {next : α → Program σ β} {passes passes' : γ → Prop}
    (left : Tests part first passes) (right : ∀ value, Tests part (next value) passes') :
    Tests part (first >>= next) fun now => passes now ∧ passes' now where
  kept := left.kept.bind fun value => (right value).kept
  returns s := by
    rw [returns_bind, ← left.returns]
    constructor
    · rintro ⟨value, s', ended, rest⟩
      have kept := left.kept s
      rw [ended] at kept
      exact ⟨⟨value, s', ended⟩, kept ▸ ((right value).returns s').mp rest⟩
    · rintro ⟨⟨value, s', ended⟩, rest⟩
      have kept := left.kept s
      rw [ended] at kept
      exact ⟨value, s', ended, ((right value).returns s').mpr (kept.symm ▸ rest)⟩

/-- A loop tests what its body tests for each element. -/
theorem forEach {ι : Type*} {items : List ι} {body : ι → Program σ PUnit.{v + 1}}
    {passes : ι → γ → Prop} (each : ∀ item, Tests part (body item) (passes item)) :
    Tests part (Program.forEach items body) fun now => ∀ item ∈ items, passes item now := by
  induction items with
  | nil => exact ⟨fun _ => rfl, fun s => iff_of_true ⟨⟨⟩, s, rfl⟩ (List.forall_mem_nil _)⟩
  | cons item rest ih =>
    have whole := (each item).bind fun _ => ih
    refine ⟨whole.kept, fun s => (whole.returns s).trans ?_⟩
    rw [List.forall_mem_cons]

end Tests

/-- A program does the same to a part of the state, and returns the same, as another program whose
state is that part. -/
def Refines {τ : Type u} (part : σ → τ) (program : Program σ α) (other : Program τ α) : Prop :=
  ∀ s, ((program s).1, part (program s).2) = other (part s)

namespace Refines

variable {τ : Type u} {part : σ → τ}

/-- Returning the same value. -/
theorem pure {value : α} :
    Refines part (Pure.pure value : Program σ α) (Pure.pure value : Program τ α) :=
  fun _ => rfl

/-- Throwing. -/
theorem throw : Refines part (Program.throw : Program σ α) (Program.throw : Program τ α) :=
  fun _ => rfl

/-- Reading the same value, or throwing. -/
theorem ofOption : ∀ value : Option α,
    Refines part (Program.ofOption value : Program σ α) (Program.ofOption value : Program τ α)
  | some _ => pure
  | none => throw

/-- Changing the part in the same way. -/
theorem modify {change : σ → σ} {other : τ → τ} (same : ∀ s, part (change s) = other (part s)) :
    Refines part (Program.modify change : Program σ PUnit.{v + 1}) (Program.modify other) := by
  intro s
  show (some PUnit.unit, part (change s)) = (some PUnit.unit, other (part s))
  rw [same]

/-- Reading the state. -/
theorem get {σ τ : Type u} {β : Type u} {part : σ → τ} {next : σ → Program σ β}
    {other : τ → Program τ β} (rest : ∀ s, Refines part (next s) (other (part s))) :
    Refines part (Program.get >>= next) (Program.get >>= other) :=
  fun s => rest s s

/-- Two programs in order. -/
theorem bind {first : Program σ α} {first' : Program τ α} {next : α → Program σ β}
    {next' : α → Program τ β} (left : Refines part first first')
    (right : ∀ value, Refines part (next value) (next' value)) :
    Refines part (first >>= next) (first' >>= next') := by
  intro s
  have same := left s
  rw [bind_apply, bind_apply, andThen, andThen, ← same]
  match ended : first s with
  | (none, s') => rfl
  | (some value, s') => exact right value s'

/-- A change that leaves the part alone. -/
theorem hidden {change : σ → σ} {next : PUnit.{v + 1} → Program σ α} {other : Program τ α}
    (kept : ∀ s, part (change s) = part s) (rest : Refines part (next ⟨⟩) other) :
    Refines part (Program.modify change >>= next) other := by
  intro s
  rw [← kept s]
  exact rest (change s)

/-- What is left and returned when exceptions are caught. -/
theorem caught {program : Program σ α} {other : Program τ α} (same : Refines part program other)
    (instead : α) (s : σ) :
    ((program.caught instead s).1, part (program.caught instead s).2) =
      other.caught instead (part s) := by
  rw [Program.caught, Program.caught, ← same s]

end Refines

end Program

end XrTransport
