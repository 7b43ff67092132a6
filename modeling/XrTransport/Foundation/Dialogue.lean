import Mathlib.Logic.Function.Basic
import XrTransport.Foundation.Transition

/-!
# Dialogues

Two sides run programs that write bytes to each other and read them, one byte a step, over a channel
in each direction that keeps the order. A side may close its stream; from then on the other side's
reads and writes may raise an exception, which ends its program and closes its own stream. What a
side has done is determined by the bytes it has read, and these are the first ones the other side
has written.
-/
namespace XrTransport

/-- The two sides. -/
inductive Side where
  /-- The one that connects. -/
  | client
  /-- The one that accepts. -/
  | server
deriving DecidableEq, Repr

/-- The side at the other end. -/
def Side.other : Side → Side
  | .client => .server
  | .server => .client

/-- The other side of the other side. -/
@[simp] theorem Side.other_other (side : Side) : side.other.other = side := by
  cases side <;> rfl

/-- No side talks to itself. -/
@[simp] theorem Side.other_ne (side : Side) : side.other ≠ side := by
  cases side <;> decide

/-- There are two sides. -/
theorem Side.eq_or_eq_other (one side : Side) : one = side ∨ one = side.other := by
  cases one <;> cases side <;> simp [Side.other]

/-- A program of one side. -/
inductive Talk (α : Type) where
  /-- Writes bytes. -/
  | write (bytes : List UInt8) (next : Talk α)
  /-- Reads as many bytes. -/
  | read (count : Nat) (next : List UInt8 → Talk α)
  /-- Closes the stream. -/
  | close (next : Talk α)
  /-- Returns. -/
  | finished (result : α)

namespace Talk

variable {α : Type}

/-- What one step of a program does. -/
structure Moved (α : Type) where
  /-- The rest of the program. -/
  next : Talk α
  /-- The bytes that are still to be read. -/
  incoming : List UInt8
  /-- The bytes written. -/
  written : List UInt8 := []
  /-- The stream is closed. -/
  closes : Bool := false

/-- A step of a program: a byte, the return from a write or a read, or the close. -/
def advance : Talk α → List UInt8 → Option (Moved α)
  | .write [] next, incoming => some { next, incoming }
  | .write (byte :: rest) next, incoming =>
    some { next := .write rest next, incoming, written := [byte] }
  | .read 0 next, incoming => some { next := next [], incoming }
  | .read (count + 1) next, byte :: incoming =>
    some { next := .read count fun rest => next (byte :: rest), incoming }
  | .read (_ + 1) _, [] => none
  | .close next, incoming => some { next, incoming, closes := true }
  | .finished _, _ => none

/-- There are bytes to write or to read, so that an exception is possible. -/
def Exposed : Talk α → Prop
  | .write bytes _ => bytes ≠ []
  | .read count _ => count ≠ 0
  | .close _ | .finished _ => False

instance : DecidablePred (Exposed (α := α))
  | .write bytes _ => inferInstanceAs (Decidable (bytes ≠ []))
  | .read count _ => inferInstanceAs (Decidable (count ≠ 0))
  | .close _ => inferInstanceAs (Decidable False)
  | .finished _ => inferInstanceAs (Decidable False)

/-- A program has read and written some bytes and is now elsewhere, or has raised an exception. -/
def Ran : Talk α → List UInt8 → List UInt8 → Option (Talk α) → Prop
  | .write bytes next, input, output, now =>
    (∃ rest, bytes = output ++ rest ∧ input = [] ∧
      (now = some (.write rest next) ∨ now = none ∧ rest ≠ [])) ∨
    ∃ later, output = bytes ++ later ∧ Ran next input later now
  | .read count next, input, output, now =>
    (∃ left, count = input.length + left ∧ output = [] ∧
      (now = some (.read left fun rest => next (input ++ rest)) ∨ now = none ∧ left ≠ 0)) ∨
    ∃ bytes later, bytes.length = count ∧ input = bytes ++ later ∧
      Ran (next bytes) later output now
  | .close next, input, output, now =>
    (input = [] ∧ output = [] ∧ now = some (.close next)) ∨ Ran next input output now
  | .finished result, input, output, now =>
    input = [] ∧ output = [] ∧ now = some (.finished result)

/-- A program starts at its beginning. -/
theorem ran_start (code : Talk α) : Ran code [] [] (some code) := by
  cases code with
  | write bytes next => exact .inl ⟨bytes, rfl, rfl, .inl rfl⟩
  | read count next => exact .inl ⟨count, by simp, rfl, .inl rfl⟩
  | close next => exact .inl ⟨rfl, rfl, rfl⟩
  | finished result => exact ⟨rfl, rfl, rfl⟩

/-- A step goes on from where a program is. -/
theorem Ran.advance {code now : Talk α} {input output incoming : List UInt8}
    (ran : Ran code input output (some now)) {moved : Moved α}
    (taken : now.advance incoming = some moved) :
    ∃ read, incoming = read ++ moved.incoming ∧
      Ran code (input ++ read) (output ++ moved.written) (some moved.next) := by
  induction code generalizing input output with
  | write bytes next ih =>
    rcases ran with ⟨rest, rfl, rfl, at_ | ⟨thrown, -⟩⟩ | ⟨later, rfl, ran⟩
    · obtain rfl := Option.some.inj at_
      cases rest with
      | nil =>
        obtain rfl := Option.some.inj taken
        exact ⟨[], rfl, .inr ⟨[], by simp, ran_start next⟩⟩
      | cons byte rest =>
        obtain rfl := Option.some.inj taken
        exact ⟨[], rfl, .inl ⟨rest, by simp, rfl, .inl rfl⟩⟩
    · contradiction
    · obtain ⟨read, split, ran⟩ := ih ran
      exact ⟨read, split, .inr ⟨later ++ moved.written, by simp, ran⟩⟩
  | read count next ih =>
    rcases ran with ⟨left, rfl, rfl, at_ | ⟨thrown, -⟩⟩ | ⟨bytes, later, counted, rfl, ran⟩
    · obtain rfl := Option.some.inj at_
      cases left with
      | zero =>
        obtain rfl := Option.some.inj taken
        have same : next (input ++ []) = next input := by rw [List.append_nil]
        refine ⟨[], rfl, .inr ⟨input, [], rfl, by simp, ?_⟩⟩
        show Ran (next input) [] [] (some (next (input ++ [])))
        rw [same]
        exact ran_start (next input)
      | succ left =>
        cases incoming with
        | nil => contradiction
        | cons byte incoming =>
          obtain rfl := Option.some.inj taken
          refine ⟨[byte], rfl, .inl ⟨left, ?_, rfl, .inl ?_⟩⟩
          · simp only [List.length_append, List.length_singleton]
            omega
          · simp only [List.append_assoc, List.singleton_append]
    · contradiction
    · obtain ⟨read, split, ran⟩ := ih bytes ran
      exact ⟨read, split, .inr ⟨bytes, later ++ read, counted, by simp, ran⟩⟩
  | close next ih =>
    rcases ran with ⟨rfl, rfl, at_⟩ | ran
    · obtain rfl := Option.some.inj at_
      obtain rfl := Option.some.inj taken
      exact ⟨[], rfl, .inr (ran_start next)⟩
    · obtain ⟨read, split, ran⟩ := ih ran
      exact ⟨read, split, .inr ran⟩
  | finished result =>
    obtain ⟨rfl, rfl, at_⟩ := ran
    obtain rfl := Option.some.inj at_
    contradiction

/-- An exception ends a program where it is. -/
theorem Ran.throw {code now : Talk α} {input output : List UInt8}
    (ran : Ran code input output (some now)) (exposed : now.Exposed) :
    Ran code input output none := by
  induction code generalizing input output with
  | write bytes next ih =>
    rcases ran with ⟨rest, split, empty, at_ | ⟨thrown, -⟩⟩ | ⟨later, split, ran⟩
    · obtain rfl := Option.some.inj at_
      exact .inl ⟨rest, split, empty, .inr ⟨rfl, exposed⟩⟩
    · contradiction
    · exact .inr ⟨later, split, ih ran⟩
  | read count next ih =>
    rcases ran with ⟨left, counted, empty, at_ | ⟨thrown, -⟩⟩ |
      ⟨bytes, later, counted, split, ran⟩
    · obtain rfl := Option.some.inj at_
      exact .inl ⟨left, counted, empty, .inr ⟨rfl, exposed⟩⟩
    · contradiction
    · exact .inr ⟨bytes, later, counted, split, ih bytes ran⟩
  | close next ih =>
    rcases ran with ⟨-, -, at_⟩ | ran
    · obtain rfl := Option.some.inj at_
      exact exposed.elim
    · exact .inr (ih ran)
  | finished result =>
    obtain ⟨-, -, at_⟩ := ran
    obtain rfl := Option.some.inj at_
    exact exposed.elim

/-- A program takes at most as many steps. -/
inductive Within : Talk α → Nat → Prop where
  /-- Nothing is left to do. -/
  | finished (result : α) (steps : Nat) : Within (.finished result) steps
  /-- The close and what follows. -/
  | close {next : Talk α} {steps : Nat} (fewer : Nat) (rest : Within next fewer)
    (enough : fewer < steps) : Within (.close next) steps
  /-- Every byte, the return, and what follows. -/
  | write {bytes : List UInt8} {next : Talk α} {steps : Nat} (fewer : Nat)
    (rest : Within next fewer) (enough : fewer + bytes.length < steps) :
    Within (.write bytes next) steps
  /-- Every byte, the return, and what follows, whatever has been read. -/
  | read {count : Nat} {next : List UInt8 → Talk α} {steps : Nat} (fewer : Nat)
    (rest : ∀ bytes, Within (next bytes) fewer) (enough : fewer + count < steps) :
    Within (.read count next) steps

/-- After a step there is one step less to take. -/
theorem Within.advance {code : Talk α} {steps : Nat} (within : Within code steps)
    {incoming : List UInt8} {moved : Moved α} (taken : code.advance incoming = some moved) :
    ∃ fewer, fewer < steps ∧ Within moved.next fewer := by
  cases within with
  | finished result => contradiction
  | close fewer rest enough =>
    obtain rfl := Option.some.inj taken
    exact ⟨_, enough, rest⟩
  | @write bytes next steps fewer rest enough =>
    cases bytes with
    | nil =>
      obtain rfl := Option.some.inj taken
      exact ⟨fewer, enough, rest⟩
    | cons byte bytes =>
      obtain rfl := Option.some.inj taken
      exact ⟨fewer + bytes.length + 1, enough, .write fewer rest (Nat.lt_succ_self _)⟩
  | @read count next steps fewer rest enough =>
    cases count with
    | zero =>
      obtain rfl := Option.some.inj taken
      exact ⟨fewer, enough, rest []⟩
    | succ count =>
      cases incoming with
      | nil => contradiction
      | cons byte incoming =>
        obtain rfl := Option.some.inj taken
        exact ⟨fewer + count + 1, enough, .read fewer (fun bytes => rest (byte :: bytes))
          (Nat.lt_succ_self _)⟩

/-- What can raise an exception has two steps left at least. -/
theorem Within.exposed {code : Talk α} {steps : Nat} (within : Within code steps)
    (exposed : code.Exposed) : 2 ≤ steps := by
  cases within with
  | finished result | close fewer rest => exact exposed.elim
  | write fewer rest enough =>
    have some := List.length_pos_of_ne_nil exposed
    omega
  | read fewer rest enough =>
    have some : _ ≠ 0 := exposed
    omega

/-- Whatever a program reads, this holds of what it has read and written and of where it is. -/
def Ensures (code : Talk α)
    (holds : List UInt8 → List UInt8 → Option (Talk α) → Prop) : Prop :=
  ∀ input output now, code.Ran input output now → holds input output now

namespace Ensures

variable {holds : List UInt8 → List UInt8 → Option (Talk α) → Prop}

/-- A write: during it and after it. -/
theorem write {bytes : List UInt8} {next : Talk α}
    (during : ∀ before rest now, bytes = before ++ rest →
      now = some (.write rest next) ∨ now = none → holds [] before now)
    (after : Ensures next fun input output now => holds input (bytes ++ output) now) :
    Ensures (.write bytes next) holds := by
  intro input output now ran
  rcases ran with ⟨rest, split, rfl, at_⟩ | ⟨later, rfl, ran⟩
  · exact during output rest now split (at_.imp_right And.left)
  · exact after input later now ran

/-- A read: during it and after it, whatever has been read. -/
theorem read {count : Nat} {next : List UInt8 → Talk α}
    (during : ∀ got left now, count = got.length + left →
      now = some (.read left fun rest => next (got ++ rest)) ∨ now = none →
      holds got [] now)
    (after : ∀ bytes, bytes.length = count →
      Ensures (next bytes) fun input output now => holds (bytes ++ input) output now) :
    Ensures (.read count next) holds := by
  intro input output now ran
  rcases ran with ⟨left, counted, rfl, at_⟩ | ⟨bytes, later, counted, rfl, ran⟩
  · exact during input left now counted (at_.imp_right And.left)
  · exact after bytes counted later output now ran

/-- A branch. -/
theorem ite {condition : Prop} [Decidable condition] {yes no : Talk α}
    (first : condition → Ensures yes holds) (second : ¬condition → Ensures no holds) :
    Ensures (if condition then yes else no) holds := by
  split
  next holds => exact first holds
  next fails => exact second fails

/-- A close: before it and after it. -/
theorem close {next : Talk α} (before : holds [] [] (some (.close next)))
    (after : Ensures next holds) : Ensures (.close next) holds := by
  intro input output now ran
  rcases ran with ⟨rfl, rfl, rfl⟩ | ran
  · exact before
  · exact after input output now ran

/-- The end. -/
theorem finished {result : α} (holds_ : holds [] [] (some (.finished result))) :
    Ensures (.finished result) holds := by
  intro input output now ran
  obtain ⟨rfl, rfl, rfl⟩ := ran
  exact holds_

end Ensures

/-- As long as a program reads one script it writes the other one, does not close its stream, and
returns one result only. -/
def Follows (code : Talk α) (reads writes : List UInt8) (result : α) : Prop :=
  code.Ensures fun input output now => input <+: reads →
    output <+: writes ∧ (∀ next, now ≠ some (.close next)) ∧
      ∀ other, now = some (.finished other) → other = result

namespace Follows

variable {reads writes : List UInt8} {result : α}

/-- A write of the beginning of the script. -/
theorem write {next : Talk α} (bytes : List UInt8) (follows : Follows next reads writes result) :
    Follows (.write bytes next) reads (bytes ++ writes) result := by
  refine Ensures.write (fun before rest now split at_ _ => ?_) ?_
  · refine ⟨?_, ?_, ?_⟩
    · rw [split, List.append_assoc]
      exact List.prefix_append _ _
    · rcases at_ with rfl | rfl <;> simp
    · rcases at_ with rfl | rfl <;> simp
  · intro input output now ran read
    obtain ⟨written, opened, returned⟩ := follows input output now ran read
    exact ⟨(List.prefix_append_right_inj bytes).mpr written, opened, returned⟩

/-- A read of the beginning of the other script. -/
theorem read {next : List UInt8 → Talk α} {count : Nat} {bytes : List UInt8}
    (counted : bytes.length = count) (follows : Follows (next bytes) reads writes result) :
    Follows (.read count next) (bytes ++ reads) writes result := by
  refine Ensures.read (fun got left now _ at_ _ => ?_) fun got length => ?_
  · refine ⟨List.nil_prefix, ?_, ?_⟩
    · rcases at_ with rfl | rfl <;> simp
    · rcases at_ with rfl | rfl <;> simp
  · intro input output now ran read
    obtain ⟨tail, whole⟩ := read
    rw [List.append_assoc] at whole
    obtain ⟨rfl, rest⟩ := List.append_inj whole (length.trans counted.symm)
    exact follows input output now ran ⟨tail, rest⟩

/-- The end. -/
theorem finished : Follows (.finished result) reads writes result :=
  Ensures.finished fun _ => ⟨List.nil_prefix, by simp, by simp⟩

end Follows

end Talk

namespace Dialogue

variable {α : Type}

/-- Two sides and the bytes on the way to them. -/
structure State (α : Type) where
  /-- The rest of a side's program; none after an exception. -/
  code : Side → Option (Talk α)
  /-- The bytes on the way to a side. -/
  incoming : Side → List UInt8 := fun _ => []
  /-- The side has closed its stream. -/
  closed : Side → Bool := fun _ => false

/-- A step. -/
inductive Label where
  /-- A side goes on; after an exception its stream is destroyed. -/
  | advance (side : Side)
  /-- A side gets an exception, because the other one has closed the stream. -/
  | throw (side : Side)
deriving DecidableEq, Repr

namespace State

/-- A side has taken a step. -/
def move (s : State α) (side : Side) (moved : Talk.Moved α) : State α where
  code := Function.update s.code side (some moved.next)
  incoming one := if one = side then moved.incoming else s.incoming one ++ moved.written
  closed := Function.update s.closed side (s.closed side || moved.closes)

/-- A side goes on. -/
def advance (s : State α) (side : Side) : Option (State α) :=
  match s.code side with
  | some code => (code.advance (s.incoming side)).map (s.move side)
  | none => if s.closed side then none
    else some { s with closed := Function.update s.closed side true }

/-- A side gets an exception. -/
def throw (s : State α) (side : Side) : Option (State α) :=
  match s.code side with
  | some code =>
    if code.Exposed ∧ s.closed side.other then
      some { s with code := Function.update s.code side none }
    else none
  | none => none

/-- What a side has returned. -/
def result (s : State α) (side : Side) : Option α :=
  match s.code side with
  | some (.finished result) => some result
  | _ => none

/-- A side waits for a byte. -/
def Reading (s : State α) (side : Side) : Prop :=
  ∃ count next, s.code side = some (.read (count + 1) next)

/-- Both sides wait for bytes that nobody will write, on streams that are open. -/
def Deadlocked (s : State α) : Prop :=
  ∀ side, s.Reading side ∧ s.incoming side = [] ∧ s.closed side = false

end State

/-- Two programs that talk to each other. -/
def dialogue (start : Side → Talk α) : System (State α) Label where
  init := { code := fun side => some (start side) }
  step s
    | .advance side => s.advance side
    | .throw side => s.throw side

/-- Nothing can happen any more. -/
def Complete (start : Side → Talk α) (s : State α) : Prop :=
  ∀ label, (dialogue start).step s label = none

/-- What two programs have read and written accounts for where they are and for the bytes on the
way. -/
structure Consistent (start : Side → Talk α) (s : State α) (input output : Side → List UInt8) :
    Prop where
  /-- Each side has run its program that far. -/
  ran : ∀ side, (start side).Ran (input side) (output side) (s.code side)
  /-- What a side has written and the other one has not read is on the way. -/
  carried : ∀ side, output side = input side.other ++ s.incoming side.other
  /-- An exception comes from a stream that the other side has closed. -/
  thrown : ∀ side, s.code side = none → s.closed side.other = true

variable {start : Side → Talk α} {s s' : State α} {input output : Side → List UInt8}

/-- Before the first step nothing has been read or written. -/
theorem consistent_init : Consistent start (dialogue start).init (fun _ => []) fun _ => [] where
  ran side := (start side).ran_start
  carried _ := rfl
  thrown _ none := by simp [dialogue] at none

/-- A side that goes on reads from and writes to the channels. -/
theorem Consistent.move (consistent : Consistent start s input output) {side : Side}
    {now : Talk α} (at_ : s.code side = some now) {moved : Talk.Moved α}
    (taken : now.advance (s.incoming side) = some moved) :
    ∃ read, Consistent start (s.move side moved)
      (Function.update input side (input side ++ read))
      (Function.update output side (output side ++ moved.written)) := by
  have ran := consistent.ran side
  rw [at_] at ran
  obtain ⟨read, split, later⟩ := ran.advance taken
  refine ⟨read, fun one => ?_, fun one => ?_, fun one => ?_⟩
  · by_cases same : one = side
    · subst same
      simpa [State.move] using later
    · simpa [State.move, same] using consistent.ran one
  · have carried := consistent.carried one
    rcases one.eq_or_eq_other side with rfl | rfl
    · simp [State.move, carried]
    · rw [Side.other_other] at carried ⊢
      simp [State.move, carried, split]
  · intro none
    rcases one.eq_or_eq_other side with rfl | rfl
    · simp [State.move] at none
    · have before : s.code side.other = Option.none := by simpa [State.move] using none
      have shut := consistent.thrown _ before
      rw [Side.other_other] at shut ⊢
      simp [State.move, shut]

/-- So it is when its stream is destroyed. -/
theorem Consistent.destroy (consistent : Consistent start s input output) (side : Side) :
    Consistent start { s with closed := Function.update s.closed side true } input output where
  ran := consistent.ran
  carried := consistent.carried
  thrown one thrown := by
    have shut := consistent.thrown one thrown
    by_cases same : one.other = side <;> simp [same, shut]

/-- So it is after an exception. -/
theorem Consistent.throw (consistent : Consistent start s input output) {side : Side}
    {now : Talk α} (at_ : s.code side = some now) (exposed : now.Exposed)
    (shut : s.closed side.other = true) :
    Consistent start { s with code := Function.update s.code side none } input output where
  ran one := by
    have ran := consistent.ran one
    by_cases same : one = side
    · subst same
      rw [at_] at ran
      simpa using ran.throw exposed
    · simpa [same] using ran
  carried := consistent.carried
  thrown one thrown := by
    by_cases same : one = side
    · subst same
      exact shut
    · exact consistent.thrown one (by simpa [same] using thrown)

/-- What a step does: a side goes on, its stream is destroyed, or it gets an exception. -/
theorem step_cases {label : Label} (taken : (dialogue start).step s label = some s') :
    (∃ side now moved, s.code side = some now ∧ now.advance (s.incoming side) = some moved ∧
      s' = s.move side moved) ∨
    (∃ side, s.code side = none ∧ s.closed side = false ∧
      s' = { s with closed := Function.update s.closed side true }) ∨
    ∃ side now, s.code side = some now ∧ now.Exposed ∧ s.closed side.other = true ∧
      s' = { s with code := Function.update s.code side none } := by
  cases label with
  | advance side =>
    simp only [dialogue, State.advance] at taken
    split at taken
    next now at_ =>
      obtain ⟨moved, went, rfl⟩ := Option.map_eq_some_iff.mp taken
      exact .inl ⟨side, now, moved, at_, went, rfl⟩
    next none =>
      split at taken
      · contradiction
      next open_ =>
        obtain rfl := Option.some.inj taken
        exact .inr (.inl ⟨side, none, by simpa using open_, rfl⟩)
  | throw side =>
    simp only [dialogue, State.throw] at taken
    split at taken
    next now at_ =>
      simp only [Option.ite_none_right_eq_some, Option.some.injEq] at taken
      obtain ⟨⟨exposed, shut⟩, rfl⟩ := taken
      exact .inr (.inr ⟨side, now, at_, exposed, shut, rfl⟩)
    · contradiction

/-- A step keeps the books. -/
theorem Consistent.step (consistent : Consistent start s input output) {label : Label}
    (taken : (dialogue start).step s label = some s') :
    ∃ input output, Consistent start s' input output := by
  rcases step_cases taken with ⟨side, now, moved, at_, went, rfl⟩ | ⟨side, -, -, rfl⟩ |
    ⟨side, now, at_, exposed, shut, rfl⟩
  · obtain ⟨read, after⟩ := consistent.move at_ went
    exact ⟨_, _, after⟩
  · exact ⟨_, _, consistent.destroy side⟩
  · exact ⟨_, _, consistent.throw at_ exposed shut⟩

/-- In every reachable state what has been read and written accounts for everything. -/
theorem consistent_of_reachable (reachable : (dialogue start).Reachable (fun _ _ => True) s) :
    ∃ input output, Consistent start s input output := by
  refine reachable.invariant (fun s => ∃ input output, Consistent start s input output)
    ⟨_, _, consistent_init⟩ fun s label s' ⟨input, output, consistent⟩ _ taken => ?_
  exact consistent.step taken

/-- What holds between the steps of two sides that keep to their scripts. -/
structure OnScript (start : Side → Talk α) (script : Side → List UInt8) (s : State α)
    (input output : Side → List UInt8) : Prop where
  /-- What has been read and written accounts for everything. -/
  consistent : Consistent start s input output
  /-- Each side has written the beginning of its script. -/
  written : ∀ side, output side <+: script side
  /-- No stream is closed. -/
  opened : ∀ side, s.closed side = false

/-- The sides read the beginning of each other's script. -/
theorem OnScript.read {script : Side → List UInt8} (on : OnScript start script s input output)
    (side : Side) : input side <+: script side.other := by
  have carried := on.consistent.carried side.other
  rw [Side.other_other] at carried
  exact (carried ▸ List.prefix_append _ _).trans (on.written side.other)

/-- On open streams there are no exceptions. -/
theorem OnScript.running {script : Side → List UInt8} (on : OnScript start script s input output)
    (side : Side) : s.code side ≠ none := by
  intro thrown
  have shut := on.consistent.thrown side thrown
  rw [on.opened] at shut
  contradiction

/-- Only a close closes the stream. -/
theorem stays_open {now : Talk α} {incoming : List UInt8} {moved : Talk.Moved α}
    (went : now.advance incoming = some moved) (other : ∀ next, now ≠ .close next) :
    moved.closes = false := by
  cases now with
  | close next => exact absurd rfl (other next)
  | write bytes next => cases bytes <;> obtain rfl := Option.some.inj went <;> rfl
  | read count next =>
    cases count with
    | zero =>
      obtain rfl := Option.some.inj went
      rfl
    | succ count =>
      cases incoming with
      | nil => contradiction
      | cons byte incoming =>
        obtain rfl := Option.some.inj went
        rfl
  | finished result => contradiction

/-- If each side writes its script as long as it reads the other one's, both write their scripts. -/
theorem onScript {script : Side → List UInt8} {result : α}
    (follows : ∀ side, (start side).Follows (script side.other) (script side) result)
    (reachable : (dialogue start).Reachable (fun _ _ => True) s) :
    ∃ input output, OnScript start script s input output := by
  refine reachable.invariant (fun s => ∃ input output, OnScript start script s input output)
    ⟨_, _, consistent_init, fun _ => List.nil_prefix, fun _ => rfl⟩
    fun s label s' ⟨input, output, on⟩ _ taken => ?_
  rcases step_cases taken with ⟨side, now, moved, at_, went, rfl⟩ | ⟨side, none, -, -⟩ |
    ⟨side, -, -, -, shut, -⟩
  · obtain ⟨read, after⟩ := on.consistent.move at_ went
    have stays : moved.closes = false := by
      have kept := follows side _ _ _ (on.consistent.ran side) (on.read side)
      exact stays_open went fun next same => kept.2.1 next (same ▸ at_)
    have writtenOther : output side.other <+: script side.other := on.written side.other
    have readHere : input side ++ read <+: script side.other := by
      have carried := after.carried side.other
      rw [Side.other_other, Function.update_self,
        Function.update_of_ne side.other_ne] at carried
      exact (carried ▸ List.prefix_append _ _).trans writtenOther
    have writtenHere : output side ++ moved.written <+: script side := by
      have ran := after.ran side
      rw [Function.update_self, Function.update_self] at ran
      exact (follows side _ _ _ ran readHere).1
    refine ⟨_, _, after, fun one => ?_, fun one => ?_⟩
    · by_cases same : one = side
      · subst same
        simpa using writtenHere
      · simpa [same] using on.written one
    · by_cases same : one = side
      · subst same
        simp [State.move, on.opened one, stays]
      · simpa [State.move, same] using on.opened one
  · exact absurd none (on.running side)
  · rw [on.opened] at shut
    contradiction

/-- A result is returned at the end of a program. -/
theorem State.result_eq_some {side : Side} {result : α} :
    s.result side = some result ↔ s.code side = some (.finished result) := by
  simp only [State.result]
  split
  next other at_ => simp [at_]
  next other => exact ⟨fun none => by simp at none, fun at_ => (other result at_).elim⟩

/-- Once nothing can happen any more, a side has returned, waits on an open stream with nothing to
come, or has ended with an exception. -/
theorem Complete.cases (complete : Complete start s) (side : Side) :
    (∃ result, s.code side = some (.finished result)) ∨
      (s.Reading side ∧ s.incoming side = [] ∧ s.closed side.other = false) ∨
      (s.code side = none ∧ s.closed side = true) := by
  have advance : s.advance side = none := complete (.advance side)
  have throw : s.throw side = none := complete (.throw side)
  simp only [State.advance] at advance
  simp only [State.throw] at throw
  cases at_ : s.code side with
  | none =>
    rw [at_] at advance
    exact .inr (.inr ⟨rfl, by simpa using advance⟩)
  | some code =>
    rw [at_] at advance throw
    cases code with
    | finished result => exact .inl ⟨result, rfl⟩
    | close next => simp [Talk.advance] at advance
    | write bytes next => cases bytes <;> simp [Talk.advance] at advance
    | read count next =>
      cases count with
      | zero => simp [Talk.advance] at advance
      | succ count =>
        refine .inr (.inl ⟨⟨count, next, at_⟩, ?_, ?_⟩)
        · generalize s.incoming side = incoming at advance
          cases incoming with
          | nil => rfl
          | cons byte rest => simp [Talk.advance] at advance
        · simpa [Talk.Exposed] using throw

/-- The steps that are left to the two sides. -/
def Budget (s : State α) (steps : Side → Nat) : Prop :=
  ∀ side, match s.code side with
    | some code => code.Within (steps side)
    | none => s.closed side = true ∨ 1 ≤ steps side

/-- A step takes one of them. -/
theorem Budget.step {steps : Side → Nat} (budget : Budget s steps) {label : Label}
    (taken : (dialogue start).step s label = some s') :
    ∃ side fewer, fewer < steps side ∧ Budget s' (Function.update steps side fewer) := by
  rcases step_cases taken with ⟨side, now, moved, at_, went, rfl⟩ | ⟨side, none, open_, rfl⟩ |
    ⟨side, now, at_, exposed, shut, rfl⟩
  · have mine := budget side
    rw [at_] at mine
    obtain ⟨fewer, less, within⟩ := mine.advance went
    refine ⟨side, fewer, less, fun one => ?_⟩
    by_cases same : one = side
    · subst same
      simpa [State.move] using within
    · simpa [State.move, same] using budget one
  · have mine := budget side
    rw [none] at mine
    have some : 1 ≤ steps side := by simpa [open_] using mine
    refine ⟨side, 0, some, fun one => ?_⟩
    by_cases same : one = side
    · subst same
      simp [none]
    · simpa [same] using budget one
  · have mine := budget side
    rw [at_] at mine
    refine ⟨side, 1, mine.exposed exposed, fun one => ?_⟩
    by_cases same : one = side
    · subst same
      simp
    · simpa [same] using budget one

/-- A run is not longer than what the sides have to do. -/
theorem length_le {steps : Side → Nat} (budget : Budget s steps) {labels : List Label}
    (ran : (dialogue start).run s labels = some s') :
    labels.length ≤ steps .client + steps .server := by
  induction labels generalizing s steps with
  | nil => exact Nat.zero_le _
  | cons label rest ih =>
    obtain ⟨middle, taken, ran⟩ := Option.bind_eq_some_iff.mp ran
    obtain ⟨side, fewer, less, after⟩ := budget.step taken
    have shorter := ih after ran
    rw [List.length_cons]
    cases side with
    | client =>
      have other : Function.update steps .client fewer .server = steps .server := by simp
      rw [Function.update_self, other] at shorter
      omega
    | server =>
      have other : Function.update steps .server fewer .client = steps .client := by simp
      rw [Function.update_self, other] at shorter
      omega

end Dialogue

end XrTransport
