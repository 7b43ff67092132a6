import Mathlib.Data.List.Basic
import XrTransport.Foundation.Words

/-!
# Writers and prefix readers of byte streams

A writer leaves bytes behind and may stop early. A reader consumes a prefix of its input. Both can
end in four ways: regularly, by raising an error, in undefined behaviour, or by running out of the
fuel that bounds their recursion. `Yields` says what a reader makes of a written prefix whatever
follows it, and is closed under sequencing.
-/
namespace XrTransport

variable {ε α β γ : Type}

/-- Why code stopped before its end. -/
inductive Stop (ε : Type) where
  /-- It raised an error. -/
  | raised (error : ε)
  /-- Its behaviour is undefined. -/
  | fault
  /-- The bound on the recursion was too small. -/
  | exhausted
deriving DecidableEq, Repr

/-- What a writer leaves behind: the bytes written until it ended, and why it ended early. -/
structure Written (ε : Type) where
  /-- The bytes on the stream. -/
  bytes : List UInt8 := []
  /-- `none` when the writer came to its end. -/
  stop : Option (Stop ε) := none
deriving DecidableEq, Repr

namespace Written

/-- A writer that ends regularly. -/
def complete (bytes : List UInt8) : Written ε := { bytes := bytes }

/-- A writer that stops at once. -/
def stopped (stop : Stop ε) : Written ε := { stop := some stop }

/-- One writer after another; the second one runs only when the first one came to its end. -/
def andThen (first second : Written ε) : Written ε :=
  match first.stop with
  | none => { bytes := first.bytes ++ second.bytes, stop := second.stop }
  | some _ => first

/-- A list of writers in order. -/
def all : List (Written ε) → Written ε
  | [] => complete []
  | first :: rest => first.andThen (all rest)

/-- Complete writers append their bytes. -/
@[simp]
theorem complete_andThen (first second : List UInt8) :
    (complete first).andThen (complete second) = (complete (first ++ second) : Written ε) := rfl

/-- An empty writer before another one changes nothing. -/
@[simp]
theorem nil_andThen (second : Written ε) : (complete []).andThen second = second := by
  cases second
  simp [complete, andThen]

/-- A complete sequence is made of complete parts. -/
theorem andThen_eq_complete {first second : Written ε} {bytes : List UInt8}
    (both : first.andThen second = complete bytes) :
    ∃ before after, first = complete before ∧ second = complete after ∧
      bytes = before ++ after := by
  obtain ⟨before, stop⟩ := first
  obtain ⟨after, stop'⟩ := second
  cases stop with
  | none =>
    simp only [andThen, complete, Written.mk.injEq] at both
    obtain ⟨rfl, rfl⟩ := both
    exact ⟨before, after, rfl, rfl, rfl⟩
  | some reason => simp [andThen, complete] at both

/-- A complete list of writers is made of complete writers. -/
theorem all_eq_complete {writers : List (Written ε)} {bytes : List UInt8}
    (whole : all writers = complete bytes) :
    ∀ writer ∈ writers, ∃ part, writer = complete part := by
  induction writers generalizing bytes with
  | nil => exact fun _ member => (List.not_mem_nil member).elim
  | cons first rest ih =>
    obtain ⟨before, after, head, tail, -⟩ := andThen_eq_complete whole
    intro writer member
    rcases List.mem_cons.mp member with rfl | later
    · exact ⟨before, head⟩
    · exact ih tail writer later

/-- The first writer is the second one, but for a part that raises an error where the second one
writes something. Nothing is said about writers that end in another way. -/
def CutOf (cut whole : Written ε) : Prop :=
  match cut.stop with
  | none => whole = cut
  | some (.raised _) =>
    whole.stop = none → ∃ more, more ≠ [] ∧ whole.bytes = cut.bytes ++ more
  | some _ => True

namespace CutOf

/-- A writer that raises no error is cut nowhere. -/
protected theorem refl {written : Written ε}
    (regular : ∀ error, written.stop ≠ some (.raised error)) :
    CutOf written written := by
  unfold CutOf
  cases ended : written.stop with
  | none => rfl
  | some reason =>
    cases reason with
    | raised error => exact absurd ended (regular error)
    | fault => exact trivial
    | exhausted => exact trivial

/-- A complete writer is cut nowhere. -/
protected theorem complete (bytes : List UInt8) :
    CutOf (complete bytes : Written ε) (complete bytes) :=
  rfl

/-- Code whose behaviour is undefined may be compared with any other. -/
protected theorem fault (whole : Written ε) : CutOf (stopped .fault) whole := trivial

/-- An error instead of some bytes. -/
protected theorem raised (error : ε) {bytes : List UInt8} (more : bytes ≠ []) :
    CutOf (stopped (.raised error)) (complete bytes) := by
  intro _
  exact ⟨bytes, more, rfl⟩

/-- Writers in sequence are cut where one of them is. -/
protected theorem andThen {first second whole whole' : Written ε} (head : CutOf first whole)
    (tail : CutOf second whole') : CutOf (first.andThen second) (whole.andThen whole') := by
  unfold CutOf at head
  cases ended : first.stop with
  | none =>
    rw [ended] at head
    subst head
    simp only [CutOf, Written.andThen, ended] at tail ⊢
    cases ended' : second.stop with
    | none =>
      rw [ended'] at tail
      rw [tail, ended']
    | some reason =>
      rw [ended'] at tail
      cases reason with
      | raised error =>
        intro complete
        obtain ⟨more, some, bytes⟩ := tail complete
        exact ⟨more, some, by rw [bytes, List.append_assoc]⟩
      | fault => exact trivial
      | exhausted => exact trivial
  | some reason =>
    rw [ended] at head
    simp only [CutOf, Written.andThen, ended]
    cases reason with
    | raised error =>
      intro complete
      cases ended' : whole.stop with
      | none =>
        obtain ⟨more, some, bytes⟩ := head ended'
        refine ⟨more ++ whole'.bytes, ?_, by rw [bytes, List.append_assoc]⟩
        simp [some]
      | some reason' =>
        simp only [ended'] at complete
        contradiction
    | fault => exact trivial
    | exhausted => exact trivial

end CutOf

end Written

/-- How a reader ends: with a value and the unread rest, or early. -/
inductive Outcome (ε α : Type) where
  /-- It returned, leaving the rest unread. -/
  | done (value : α) (rest : List UInt8)
  /-- It stopped before its end. -/
  | stopped (stop : Stop ε)
deriving DecidableEq, Repr

/-- A reader of a prefix of its input. -/
def Decoder (ε α : Type) := List UInt8 → Outcome ε α

namespace Decoder

/-- Return a value, reading nothing. -/
def pure (value : α) : Decoder ε α := fun bytes => .done value bytes

/-- Read, then go on with what was read. -/
def bind (first : Decoder ε α) (next : α → Decoder ε β) : Decoder ε β := fun bytes =>
  match first bytes with
  | .done value rest => next value rest
  | .stopped reason => .stopped reason

instance : Monad (Decoder ε) where
  pure := Decoder.pure
  bind := Decoder.bind

/-- Stop before reading anything. -/
def stop (reason : Stop ε) : Decoder ε α := fun _ => .stopped reason

/-- Raise an error. -/
def raise (error : ε) : Decoder ε α := stop (.raised error)

/-- Read a little-endian word; a short input raises the given error. -/
def word (size : Nat) (short : ε) : Decoder ε Nat := fun bytes =>
  if size ≤ bytes.length then .done (ofBytes (bytes.take size)) (bytes.drop size)
  else .stopped (.raised short)

/-- Returning reads nothing. -/
@[simp]
theorem pure_apply (value : α) (bytes : List UInt8) :
    (Pure.pure value : Decoder ε α) bytes = .done value bytes := rfl

/-- Sequencing passes the value and the rest on. -/
theorem bind_apply (first : Decoder ε α) (next : α → Decoder ε β) (bytes : List UInt8) :
    (first >>= next) bytes =
      match first bytes with
      | .done value rest => next value rest
      | .stopped reason => .stopped reason := rfl

/-- Applying a function to the result changes neither the rest nor the way of stopping. -/
theorem map_apply (f : α → β) (reader : Decoder ε α) (bytes : List UInt8) :
    (f <$> reader) bytes =
      match reader bytes with
      | .done value rest => .done (f value) rest
      | .stopped reason => .stopped reason := rfl

/-- Returning what was read changes nothing. -/
theorem bind_returned (reader : Decoder ε α) : (reader >>= Pure.pure) = reader := by
  funext bytes
  rw [bind_apply]
  cases reader bytes with
  | done value rest => rfl
  | stopped reason => rfl

/-- What follows a returned value goes on with it. -/
theorem returned_bind (value : α) (next : α → Decoder ε β) :
    (Pure.pure value >>= next) = next value := rfl

/-- Sequencing is associative. -/
theorem bind_assoc (first : Decoder ε α) (next : α → Decoder ε β) (last : β → Decoder ε γ) :
    (first >>= next >>= last) = first >>= fun value => next value >>= last := by
  funext bytes
  simp only [bind_apply]
  cases first bytes with
  | done value rest => rfl
  | stopped reason => rfl

/-- After a reader that returns, the next one goes on from the rest. -/
theorem bind_done {first : Decoder ε α} {bytes rest : List UInt8} {value : α}
    (returned : first bytes = .done value rest) (next : α → Decoder ε β) :
    (first >>= next) bytes = next value rest := by
  rw [bind_apply, returned]

/-- A reader that stops early stops the sequence. -/
theorem bind_stopped {first : Decoder ε α} {bytes : List UInt8} {reason : Stop ε}
    (early : first bytes = .stopped reason) (next : α → Decoder ε β) :
    (first >>= next) bytes = .stopped reason := by
  rw [bind_apply, early]

/-- A sequence that returned is made of readers that returned. -/
theorem bind_eq_done {first : Decoder ε α} {next : α → Decoder ε β} {bytes rest : List UInt8}
    {value : β} (returned : (first >>= next) bytes = .done value rest) :
    ∃ between middle, first bytes = .done between middle ∧
      next between middle = .done value rest := by
  rw [bind_apply] at returned
  cases ended : first bytes with
  | done between middle =>
    rw [ended] at returned
    exact ⟨between, middle, rfl, returned⟩
  | stopped reason =>
    rw [ended] at returned
    contradiction

/-- A function was applied to the result of a reader that returned. -/
theorem map_eq_done {f : α → β} {reader : Decoder ε α} {bytes rest : List UInt8} {value : β}
    (returned : (f <$> reader) bytes = .done value rest) :
    ∃ found, reader bytes = .done found rest ∧ f found = value := by
  rw [map_apply] at returned
  cases ended : reader bytes with
  | done found left =>
    rw [ended, Outcome.done.injEq] at returned
    obtain ⟨rfl, rfl⟩ := returned
    exact ⟨found, rfl, rfl⟩
  | stopped reason =>
    rw [ended] at returned
    contradiction

/-- A function is applied to the result of a reader that returns. -/
theorem map_done {reader : Decoder ε α} {bytes rest : List UInt8} {found : α}
    (returned : reader bytes = .done found rest) (f : α → β) :
    (f <$> reader) bytes = .done (f found) rest := by
  rw [map_apply, returned]

/-- In front of any suffix, the reader returns the value and leaves that suffix when there is a
value, and raises an error otherwise. -/
def Yields (reader : Decoder ε α) (bytes : List UInt8) (result : Option α) : Prop :=
  match result with
  | some value => ∀ suffix, reader (bytes ++ suffix) = .done value suffix
  | none => ∀ suffix, ∃ error, reader (bytes ++ suffix) = .stopped (.raised error)

namespace Yields

/-- Returning yields the value from no bytes. -/
protected theorem pure (value : α) :
    Yields (Pure.pure value : Decoder ε α) [] (some value) := fun _ => rfl

/-- Raising yields nothing, whatever was written. -/
protected theorem raise (error : ε) (bytes : List UInt8) :
    Yields (raise error : Decoder ε α) bytes none := fun _ => ⟨error, rfl⟩

/-- Readers in sequence yield what their results in sequence are. -/
protected theorem bind {first : Decoder ε α} {next : α → Decoder ε β} {before after : List UInt8}
    {found : Option α} {result : α → Option β} (head : Yields first before found)
    (tail : ∀ value, found = some value → Yields (next value) after (result value)) :
    Yields (first >>= next) (before ++ after) (found.bind result) := by
  cases found with
  | none =>
    intro suffix
    obtain ⟨error, raised⟩ := head (after ++ suffix)
    rw [List.append_assoc]
    exact ⟨error, bind_stopped raised next⟩
  | some value =>
    have step : ∀ suffix, (first >>= next) (before ++ after ++ suffix) =
        next value (after ++ suffix) := by
      intro suffix
      rw [List.append_assoc, bind_done (head (after ++ suffix)) next]
    have rest := tail value rfl
    show Yields (first >>= next) (before ++ after) (result value)
    cases final : result value with
    | none =>
      rw [final] at rest
      intro suffix
      rw [step]
      exact rest suffix
    | some value' =>
      rw [final] at rest
      intro suffix
      rw [step]
      exact rest suffix

/-- Applying a function to the result of a reader. -/
protected theorem map {reader : Decoder ε α} {bytes : List UInt8} {found : Option α} (f : α → β)
    (head : Yields reader bytes found) : Yields (f <$> reader) bytes (found.map f) := by
  cases found with
  | none =>
    intro suffix
    obtain ⟨error, raised⟩ := head suffix
    exact ⟨error, by rw [map_apply, raised]⟩
  | some value =>
    intro suffix
    rw [map_apply, head suffix]

/-- A reader that returns, in front of a continuation that reads nothing. -/
protected theorem andThen {first : Decoder ε α} {next : α → Decoder ε β} {bytes : List UInt8}
    {value : α} {result : Option β} (head : Yields first bytes (some value))
    (tail : Yields (next value) [] result) : Yields (first >>= next) bytes result := by
  have both : Yields (first >>= next) (bytes ++ []) ((some value).bind fun _ => result) := by
    refine Yields.bind head ?_
    intro found same
    obtain rfl := Option.some.inj same
    exact tail
  simpa using both

/-- A word that fits its width is read back. -/
protected theorem word {size value : Nat} (short : ε) (fits : value < 256 ^ size) :
    Yields (word size short) (toBytes size value) (some value) := by
  intro suffix
  have taken : (toBytes size value ++ suffix).take size = toBytes size value := by
    rw [List.take_append_of_le_length (by simp), List.take_of_length_le (by simp)]
  have dropped : (toBytes size value ++ suffix).drop size = suffix := by
    rw [List.drop_append_of_le_length (by simp), List.drop_of_length_le (by simp), List.nil_append]
  simp [Decoder.word, taken, dropped, ofBytes_toBytes fits]

/-- A word, then a reader that goes on with it. -/
protected theorem afterWord {size value : Nat} {next : Nat → Decoder ε β} {after : List UInt8}
    {result : Option β} (short : ε) (fits : value < 256 ^ size)
    (tail : Yields (next value) after result) :
    Yields (Decoder.word size short >>= next) (toBytes size value ++ after) result := by
  have both : Yields (Decoder.word size short >>= next) (toBytes size value ++ after)
      ((some value).bind fun _ => result) := by
    refine Yields.bind (Yields.word short fits) ?_
    intro found same
    obtain rfl := Option.some.inj same
    exact tail
  simpa using both

end Yields

/-- On inputs up to this length the reader does not run out of fuel, and never adds to its input. -/
def Runs (limit : Nat) (reader : Decoder ε α) : Prop :=
  ∀ bytes, bytes.length ≤ limit →
    match reader bytes with
    | .done _ rest => rest.length ≤ bytes.length
    | .stopped reason => reason ≠ .exhausted

namespace Runs

/-- Returning runs. -/
protected theorem pure (limit : Nat) (value : α) :
    Runs limit (Pure.pure value : Decoder ε α) := fun bytes _ => Nat.le_refl bytes.length

/-- Stopping for any other reason than the fuel runs. -/
protected theorem stop (limit : Nat) {reason : Stop ε} (other : reason ≠ .exhausted) :
    Runs limit (stop reason : Decoder ε α) := fun _ _ => other

/-- What runs on long inputs runs on short ones. -/
protected theorem mono {limit limit' : Nat} {reader : Decoder ε α} (runs : Runs limit reader)
    (shorter : limit' ≤ limit) : Runs limit' reader :=
  fun bytes fits => runs bytes (Nat.le_trans fits shorter)

/-- Readers that run do so in sequence. -/
protected theorem bind {limit : Nat} {first : Decoder ε α} {next : α → Decoder ε β}
    (head : Runs limit first) (tail : ∀ value, Runs limit (next value)) :
    Runs limit (first >>= next) := by
  intro bytes fits
  have headRuns := head bytes fits
  rw [bind_apply]
  cases ended : first bytes with
  | stopped reason => simpa [ended] using headRuns
  | done value rest =>
    simp only [ended] at headRuns ⊢
    have tailRuns := tail value rest (Nat.le_trans headRuns fits)
    cases ended' : next value rest with
    | stopped reason => simpa [ended'] using tailRuns
    | done value' rest' =>
      simp only [ended'] at tailRuns ⊢
      exact Nat.le_trans tailRuns headRuns

/-- Applying a function to the result changes nothing. -/
protected theorem map {limit : Nat} {reader : Decoder ε α} (f : α → β) (runs : Runs limit reader) :
    Runs limit (f <$> reader) := Runs.bind runs fun value => Runs.pure limit (f value)

/-- A word read leaves so many bytes less to whatever follows. -/
protected theorem afterWord {limit size : Nat} {next : Nat → Decoder ε β} (short : ε)
    (tail : ∀ value, size ≤ limit → Runs (limit - size) (next value)) :
    Runs limit (Decoder.word size short >>= next) := by
  intro bytes fits
  rw [bind_apply, Decoder.word]
  by_cases long : size ≤ bytes.length
  · simp only [long, if_true]
    have dropped : (bytes.drop size).length ≤ limit - size := by
      rw [List.length_drop]
      omega
    have tailRuns := tail (ofBytes (bytes.take size)) (by omega) (bytes.drop size) dropped
    cases ended : next (ofBytes (bytes.take size)) (bytes.drop size) with
    | stopped reason => simpa [ended] using tailRuns
    | done value rest =>
      simp only [ended, List.length_drop] at tailRuns ⊢
      omega
  · simp [long]

/-- A word alone. -/
protected theorem word (limit size : Nat) (short : ε) : Runs limit (Decoder.word size short) := by
  intro bytes _
  rw [Decoder.word]
  by_cases long : size ≤ bytes.length
  · simp [long]
  · simp [long]

end Runs

/-- Whatever the reader returned on, it used a prefix of its input: in front of any other rest it
returns the same, and cut short anywhere within that prefix it raises the given error. -/
def Scans (short : ε) (reader : Decoder ε α) : Prop :=
  ∀ bytes value rest, reader bytes = .done value rest →
    ∃ used, bytes = used ++ rest ∧ (∀ rest', reader (used ++ rest') = .done value rest') ∧
      ∀ front back, used = front ++ back → back ≠ [] → reader front = .stopped (.raised short)

namespace Scans

variable {short : ε}

/-- Returning uses nothing. -/
protected theorem pure (value : α) : Scans short (Pure.pure value : Decoder ε α) := by
  intro bytes found rest returned
  rw [pure_apply, Outcome.done.injEq] at returned
  obtain ⟨rfl, rfl⟩ := returned
  refine ⟨[], rfl, fun rest' => rfl, ?_⟩
  intro front back empty more
  rw [eq_comm, List.append_eq_nil_iff] at empty
  exact absurd empty.2 more

/-- What never returns uses nothing. -/
protected theorem stop (reason : Stop ε) : Scans short (stop reason : Decoder ε α) := by
  intro bytes value rest returned
  rw [stop] at returned
  contradiction

/-- Readers that scan do so in sequence. -/
protected theorem bind {first : Decoder ε α} {next : α → Decoder ε β} (head : Scans short first)
    (tail : ∀ value, Scans short (next value)) : Scans short (first >>= next) := by
  intro bytes value rest returned
  obtain ⟨between, middle, began, ended⟩ := bind_eq_done returned
  obtain ⟨before, rfl, anyHead, cutHead⟩ := head bytes between middle began
  obtain ⟨after, rfl, anyTail, cutTail⟩ := tail between middle value rest ended
  refine ⟨before ++ after, (List.append_assoc before after rest).symm, ?_, ?_⟩
  · intro rest'
    rw [List.append_assoc, bind_done (anyHead (after ++ rest')) next]
    exact anyTail rest'
  · intro front back split more
    -- The cut lies within what the first reader used or within what the second one did.
    obtain ⟨gap, rfl, rfl⟩ | ⟨gap, rfl, rfl⟩ := List.append_eq_append_iff.mp split
    · rw [bind_done (anyHead gap) next]
      exact cutTail gap back rfl more
    · by_cases exact : gap = []
      · subst exact
        have whole : first front = .done between [] := by simpa using anyHead []
        rw [bind_done whole next]
        exact cutTail [] after rfl more
      · exact bind_stopped (cutHead front gap rfl exact) next

/-- Input that is used to its end is needed to its end. -/
theorem strictPrefix {reader : Decoder ε α} (scans : Scans short reader) {bytes : List UInt8}
    {value : α} (returned : reader bytes = .done value []) {front back : List UInt8}
    (split : bytes = front ++ back) (more : back ≠ []) :
    reader front = .stopped (.raised short) := by
  obtain ⟨used, whole, -, cut⟩ := scans bytes value [] returned
  have all : used = front ++ back := by rw [← split, whole, List.append_nil]
  exact cut front back all more

/-- Applying a function to the result changes nothing. -/
protected theorem map {reader : Decoder ε α} (f : α → β) (scans : Scans short reader) :
    Scans short (f <$> reader) := Scans.bind scans fun value => Scans.pure (f value)

/-- A word is read as a whole or not at all. -/
protected theorem word (size : Nat) : Scans short (Decoder.word size short) := by
  intro bytes value rest returned
  rw [Decoder.word] at returned
  by_cases long : size ≤ bytes.length
  · simp only [long, if_true, Outcome.done.injEq] at returned
    obtain ⟨rfl, rfl⟩ := returned
    have taken : (bytes.take size).length = size := by
      rw [List.length_take]
      omega
    refine ⟨bytes.take size, (List.take_append_drop size bytes).symm, ?_, ?_⟩
    · intro rest'
      have fits : size ≤ (bytes.take size ++ rest').length := by
        rw [List.length_append]
        omega
      rw [Decoder.word, if_pos fits, List.take_left' taken, List.drop_left' taken]
    · intro front back split more
      have shorter : front.length < size := by
        have total := congrArg List.length split
        have some := List.length_pos_iff.mpr more
        rw [taken, List.length_append] at total
        omega
      rw [Decoder.word]
      simp [Nat.not_le.mpr shorter]
  · simp [long] at returned

end Scans

end Decoder

end XrTransport
