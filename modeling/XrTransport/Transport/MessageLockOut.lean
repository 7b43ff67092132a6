import Mathlib.Data.List.TakeWhile
import XrTransport.Transport.Frame

/-!
# Outgoing messages

`MessageLockOutImpl` collects the bytes of a message behind eight bytes for its header, which only
its constructor reserves. The bytes on the stream are well formed as long as one flush sends them
all.
-/
namespace XrTransport.Transport

/-- `MessageLockOutImpl`, and what it has put on the stream. -/
structure MessageLockOut where
  /-- The kind of the message. -/
  header : UInt16
  /-- The bytes not yet sent, the header included. -/
  buffer : List UInt8
  /-- The bytes sent. -/
  sent : List UInt8 := []
deriving DecidableEq

/-- A call on a message that is not released. -/
inductive Use where
  /-- `write_some`. -/
  | writeSome (bytes : List UInt8)
  /-- `flush`. -/
  | flush
deriving DecidableEq

namespace MessageLockOut

/-- The constructor saves space for the header. -/
def construct (header : UInt16) : MessageLockOut := { header, buffer := headerBytes header 0 }

/-- `SendBuffer::write_some`. -/
def writeSome (m : MessageLockOut) (bytes : List UInt8) : MessageLockOut :=
  { m with buffer := m.buffer ++ bytes }

/-- The size `flush` puts into the header: a difference of `size_t`, as 32 bits. -/
def size (buffer : List UInt8) : Nat := (buffer.length + 2 ^ 64 - headerSize) % 2 ^ 64 % 2 ^ 32

/-- The buffer once `memcpy` has put the header over its beginning: of what the vector holds, eight
bytes change, or all if there are fewer. -/
def overwrite (header : UInt16) (buffer : List UInt8) : List UInt8 :=
  (headerBytes header (size buffer)).take buffer.length ++ buffer.drop headerSize

/-- `MessageLockOutImpl::flush`. -/
def flush (m : MessageLockOut) : MessageLockOut :=
  if m.buffer.length = 0 then m
  else { m with sent := m.sent ++ overwrite m.header m.buffer, buffer := [] }

/-- The destructor of the wrapper flushes, and so does the one of the implementation. -/
def release (m : MessageLockOut) : MessageLockOut := m.flush.flush

/-- A call. -/
def use (m : MessageLockOut) : Use → MessageLockOut
  | .writeSome bytes => m.writeSome bytes
  | .flush => m.flush

/-- The calls on a new message. -/
def useAll (header : UInt16) (uses : List Use) : MessageLockOut :=
  uses.foldl use (construct header)

end MessageLockOut

namespace Use

/-- The bytes of the calls, in order. -/
def written (uses : List Use) : List UInt8 :=
  uses.flatMap fun
    | .writeSome bytes => bytes
    | .flush => []

/-- The calls from the first flush on. -/
def flushed (uses : List Use) : List Use := uses.dropWhile fun use => use ≠ .flush

/-- No bytes follow the first flush, and the size field can count them. -/
def OneFrame (uses : List Use) : Prop :=
  written (flushed uses) = [] ∧ (written uses).length < 2 ^ 32

instance (uses : List Use) : Decidable (OneFrame uses) := inferInstanceAs (Decidable (_ ∧ _))

end Use

namespace MessageLockOut

/-- The header is overwritten in place. -/
@[simp] theorem length_overwrite (header : UInt16) (buffer : List UInt8) :
    (overwrite header buffer).length = buffer.length := by
  simp [overwrite]
  omega

/-- A call leaves the kind of the message. -/
@[simp] theorem header_use (m : MessageLockOut) (use : Use) : (m.use use).header = m.header := by
  cases use with
  | writeSome bytes => rfl
  | flush =>
    simp only [MessageLockOut.use, flush]
    split <;> rfl

/-- A flush leaves nothing in the buffer. -/
@[simp] theorem buffer_flush (m : MessageLockOut) : m.flush.buffer = [] := by
  simp only [flush]
  split
  next empty => exact List.eq_nil_of_length_eq_zero empty
  · rfl

/-- An empty buffer is not flushed. -/
theorem flush_of_empty {m : MessageLockOut} (empty : m.buffer = []) : m.flush = m := by
  simp [flush, empty]

/-- A flush sends as many bytes as it takes from the buffer. -/
theorem length_flush (m : MessageLockOut) :
    m.flush.sent.length = m.sent.length + m.buffer.length := by
  simp only [flush]
  split
  next empty => simp [empty]
  · simp

/-- The release sends all there is, in one flush. -/
theorem release_eq (m : MessageLockOut) : m.release = m.flush :=
  flush_of_empty (buffer_flush m)

/-- Every byte written is in the buffer or on the stream, with eight more. -/
theorem length_use (m : MessageLockOut) (use : Use) :
    (m.use use).sent.length + (m.use use).buffer.length =
      m.sent.length + m.buffer.length + (Use.written [use]).length := by
  cases use with
  | writeSome bytes => simp [MessageLockOut.use, writeSome, Use.written]; omega
  | flush => simp [MessageLockOut.use, Use.written, length_flush]

/-- So it is after any calls. -/
theorem length_uses (m : MessageLockOut) (uses : List Use) :
    (uses.foldl use m).sent.length + (uses.foldl use m).buffer.length =
      m.sent.length + m.buffer.length + (Use.written uses).length := by
  induction uses generalizing m with
  | nil => rfl
  | cons use rest ih =>
    have first := length_use m use
    have written : (Use.written (use :: rest)).length =
        (Use.written [use]).length + (Use.written rest).length := by
      simp [Use.written]
    rw [List.foldl_cons, ih, first, written]
    omega

/-- All that a released message has sent. -/
theorem length_sent (header : UInt16) (uses : List Use) :
    (useAll header uses).release.sent.length = headerSize + (Use.written uses).length := by
  have all := length_uses (construct header) uses
  rw [release_eq, length_flush]
  rw [useAll, all]
  simp [construct]

/-- What is on the stream stays there. -/
theorem sent_prefix_uses (m : MessageLockOut) (uses : List Use) :
    m.sent <+: (uses.foldl use m).sent := by
  induction uses generalizing m with
  | nil => exact List.prefix_rfl
  | cons use rest ih =>
    refine List.IsPrefix.trans ?_ (ih (m.use use))
    cases use with
    | writeSome bytes => exact List.prefix_rfl
    | flush =>
      simp only [MessageLockOut.use, flush]
      split
      · exact List.prefix_rfl
      · exact List.prefix_append _ _

/-- Over the reserved bytes goes the header, with the length of the rest as 32 bits. -/
theorem overwrite_reserved (header : UInt16) (bytes : List UInt8) :
    overwrite header (headerBytes header 0 ++ bytes) =
      headerBytes header (bytes.length % 2 ^ 32) ++ bytes := by
  have counted : size (headerBytes header 0 ++ bytes) = bytes.length % 2 ^ 32 := by
    simp only [size, List.length_append, length_headerBytes, headerSize]
    omega
  have whole : (headerBytes header (bytes.length % 2 ^ 32)).take
      (headerBytes header 0 ++ bytes).length = headerBytes header (bytes.length % 2 ^ 32) :=
    List.take_of_length_le (by simp)
  have rest : (headerBytes header 0 ++ bytes).drop headerSize = bytes :=
    List.drop_left' (length_headerBytes header 0)
  rw [overwrite, counted, whole, rest]

/-- Until the first flush all bytes are in the buffer. -/
theorem useAll_writes (header : UInt16) {uses : List Use} (writes : ∀ use ∈ uses, use ≠ .flush) :
    useAll header uses = { header, buffer := headerBytes header 0 ++ Use.written uses } := by
  induction uses using List.reverseRecOn with
  | nil => simp [useAll, construct, Use.written]
  | append_singleton uses use ih =>
    have before := ih fun other member => writes other (by simp [member])
    cases use with
    | flush => exact absurd rfl (writes .flush (by simp))
    | writeSome bytes =>
      rw [useAll] at before
      rw [useAll, List.foldl_append, before]
      simp [MessageLockOut.use, writeSome, Use.written]

end MessageLockOut

namespace Use

/-- The calls before the first flush. -/
def before (uses : List Use) : List Use := uses.takeWhile fun use => use ≠ .flush

/-- The bytes of the calls before the first flush come first. -/
theorem written_split (uses : List Use) :
    written uses = written (before uses) ++ written (flushed uses) := by
  rw [written, written, written, ← List.flatMap_append, before, flushed,
    List.takeWhile_append_dropWhile]

/-- The first of the other calls is that flush. -/
theorem flushed_cases (uses : List Use) :
    flushed uses = [] ∨ ∃ rest, flushed uses = .flush :: rest := by
  induction uses with
  | nil => exact .inl rfl
  | cons use rest ih =>
    cases use with
    | writeSome bytes => exact ih
    | flush => exact .inr ⟨rest, rfl⟩

end Use

namespace MessageLockOut

/-- The first flush sends the header with the size of the bytes before it, and these bytes. -/
theorem sent_first (header : UInt16) (uses : List Use) :
    headerBytes header ((Use.written (Use.before uses)).length % 2 ^ 32) ++
      Use.written (Use.before uses) <+: (useAll header uses).release.sent := by
  have start : useAll header (Use.before uses) = _ := useAll_writes header fun use member => by
    simpa using List.mem_takeWhile_imp member
  have all :
      useAll header uses = (Use.flushed uses).foldl use (useAll header (Use.before uses)) := by
    rw [useAll, useAll, ← List.foldl_append, Use.before, Use.flushed,
      List.takeWhile_append_dropWhile]
  have first : (useAll header (Use.before uses)).flush.sent =
      headerBytes header ((Use.written (Use.before uses)).length % 2 ^ 32) ++
        Use.written (Use.before uses) := by
    rw [start, ← overwrite_reserved]
    simp [flush, headerSize]
  rw [release_eq, all, ← first]
  rcases Use.flushed_cases uses with none | ⟨rest, some⟩
  · rw [none]
    exact List.prefix_rfl
  · rw [some, List.foldl_cons]
    exact (sent_prefix_uses _ rest).trans (sent_prefix_uses _ [.flush])

/-- Bytes that are all sent by one flush make one frame. -/
theorem sent_oneFrame (header : UInt16) {uses : List Use} (one : Use.OneFrame uses) :
    (useAll header uses).release.sent =
      headerBytes header (Use.written uses).length ++ Use.written uses := by
  have split := Use.written_split uses
  rw [one.1, List.append_nil] at split
  have first := sent_first header uses
  rw [← split, Nat.mod_eq_of_lt one.2] at first
  refine (first.eq_of_length ?_).symm
  rw [length_sent]
  simp

end MessageLockOut

/-- The bytes of a stream that can be read are its payloads and a header for each. -/
theorem Framed.length {bytes : List UInt8} {messages : List MessageIn}
    (framed : Framed bytes messages) :
    bytes.length = headerSize * messages.length + (messages.flatMap (·.payload)).length := by
  induction framed with
  | nil => rfl
  | cons sized complete others ih =>
    simp only [List.length_append, List.length_cons, List.flatMap_cons, sized, ih, headerSize]
    omega

/-- What a reader makes of the bytes of a message: complete frames of its kind, whose payloads are
the bytes written. -/
def WellFormed (header : UInt16) (sent written : List UInt8) : Prop :=
  ∃ messages, Framed sent messages ∧ (∀ m ∈ messages, m.header = header) ∧
    messages.flatMap (·.payload) = written

namespace MessageLockOut

/-- A stream that is well formed has one frame only, since all there is besides the bytes written is
one header; and that frame is the one of the first flush. -/
theorem oneFrame_of_wellFormed {header : UInt16} {uses : List Use}
    (wellFormed : WellFormed header (useAll header uses).release.sent (Use.written uses)) :
    Use.OneFrame uses := by
  obtain ⟨messages, framed, -, payloads⟩ := wellFormed
  have length := framed.length
  rw [payloads, length_sent, headerSize] at length
  obtain ⟨m, rfl⟩ := List.length_eq_one_iff.mp (by omega : messages.length = 1)
  generalize sent : (useAll header uses).release.sent = bytes at framed
  cases framed with
  | cons sized complete others =>
    rename_i first payload rest
    cases others
    have all : payload = Use.written uses := by simpa using payloads
    have start := sent_first header uses
    rw [sent, List.append_nil] at start
    obtain ⟨tail, whole⟩ := start
    rw [List.append_assoc] at whole
    obtain ⟨same, -⟩ := List.append_inj whole (by rw [length_headerBytes, sized])
    rw [← same, sizeOf_headerBytes _ (Nat.mod_lt _ (by decide)), all] at complete
    have parts := congrArg List.length (Use.written_split uses)
    rw [List.length_append] at parts
    have bound := Nat.mod_lt (Use.written (Use.before uses)).length (by decide : 2 ^ 32 > 0)
    have small := Nat.mod_le (Use.written (Use.before uses)).length (2 ^ 32)
    exact ⟨List.eq_nil_of_length_eq_zero (by omega), by omega⟩

/-- One frame is well formed. -/
theorem wellFormed_of_oneFrame (header : UInt16) {uses : List Use} (one : Use.OneFrame uses) :
    WellFormed header (useAll header uses).release.sent (Use.written uses) := by
  refine ⟨[⟨header, Use.written uses⟩], ?_, by simp, by simp⟩
  have frame := Framed.cons (length_headerBytes header (Use.written uses).length)
    (sizeOf_headerBytes header one.2).symm Framed.nil
  rw [kindOf_headerBytes, List.append_nil] at frame
  rw [sent_oneFrame header one]
  exact frame

/-- After any calls and the release the stream is well formed, and a release with nothing to flush
sends nothing, exactly if no bytes were written after the first flush and fewer than `2 ^ 32` in
all. -/
theorem wellFormed_iff (header : UInt16) (uses : List Use) :
    (WellFormed header (useAll header uses).release.sent (Use.written uses) ∧
      ((useAll header uses).buffer = [] →
        (useAll header uses).release.sent = (useAll header uses).sent)) ↔
      Use.OneFrame uses := by
  constructor
  · rintro ⟨wellFormed, -⟩
    exact oneFrame_of_wellFormed wellFormed
  · intro one
    refine ⟨wellFormed_of_oneFrame header one, fun empty => ?_⟩
    rw [release_eq, flush_of_empty empty]

/-- Bytes written after a flush are overwritten by a header there is no space for. -/
theorem second_flush_malformed :
    ¬∀ (header : UInt16) (uses : List Use),
      WellFormed header (useAll header uses).release.sent (Use.written uses) := by
  intro always
  have one := oneFrame_of_wellFormed (always 100 [.writeSome [1], .flush, .writeSome [2]])
  exact absurd one (by decide)

end MessageLockOut

end XrTransport.Transport
