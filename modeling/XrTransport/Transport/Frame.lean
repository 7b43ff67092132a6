import Mathlib.Data.List.Basic
import Mathlib.Data.List.Infix
import XrTransport.Foundation.Words

/-!
# Frames

A message travels as a `MessageHeader` of eight bytes, which carries its kind and the length of its
payload, and the payload. `Framed` says what the reader makes of a stream of bytes; on a stream of
written frames it is what was written.
-/
namespace XrTransport.Transport

/-- `XRTP_MSG_FUNCTION_CALL`. -/
def functionCall : UInt16 := 1

/-- `XRTP_MSG_FUNCTION_RETURN`. -/
def functionReturn : UInt16 := 2

/-- `XRTP_MSG_SHUTDOWN`. -/
def shutdown : UInt16 := 99

/-- `MessageIn`. -/
structure MessageIn where
  /-- The kind of the message. -/
  header : UInt16
  /-- The bytes after the header. -/
  payload : List UInt8
deriving DecidableEq, Repr

/-- `sizeof(MessageHeader)`. -/
def headerSize : Nat := 8

/-- The bytes of a `MessageHeader`: the kind, padding, and the size as 32 bits. -/
def headerBytes (header : UInt16) (size : Nat) : List UInt8 :=
  toBytes 2 header.toNat ++ toBytes 2 0 ++ toBytes 4 size

/-- The kind in the bytes of a `MessageHeader`. -/
def kindOf (bytes : List UInt8) : UInt16 := UInt16.ofNat (ofBytes (bytes.take 2))

/-- The size in the bytes of a `MessageHeader`. -/
def sizeOf (bytes : List UInt8) : Nat := ofBytes (bytes.drop 4)

/-- A `MessageHeader` has eight bytes. -/
@[simp]
theorem length_headerBytes (header : UInt16) (size : Nat) :
    (headerBytes header size).length = headerSize := by
  simp [headerBytes, headerSize]

/-- The kind is read back as it was written. -/
theorem kindOf_headerBytes (header : UInt16) (size : Nat) :
    kindOf (headerBytes header size) = header := by
  have kind : (headerBytes header size).take 2 = toBytes 2 header.toNat := by
    rw [headerBytes, List.append_assoc]
    exact List.take_left' (length_toBytes _ _)
  have fits : header.toNat < 256 ^ 2 := header.toNat_lt
  rw [kindOf, kind, ofBytes_toBytes fits, UInt16.ofNat_toNat]

/-- The size is read back as it was written if it fits. -/
theorem sizeOf_headerBytes (header : UInt16) {size : Nat} (fits : size < 2 ^ 32) :
    sizeOf (headerBytes header size) = size := by
  have word : (headerBytes header size).drop 4 = toBytes 4 size :=
    List.drop_left' (by simp)
  rw [sizeOf, word, ofBytes_toBytes fits]

namespace MessageIn

/-- The payload is shorter than `2 ^ 32` bytes. -/
def Small (m : MessageIn) : Prop := m.payload.length < 2 ^ 32

/-- The bytes of a message on the stream. -/
def frame (m : MessageIn) : List UInt8 := headerBytes m.header m.payload.length ++ m.payload

/-- No frame is empty. -/
theorem length_frame (m : MessageIn) : m.frame.length = headerSize + m.payload.length := by
  simp [frame]

/-- The bytes of messages sent one after the other. -/
def stream (messages : List MessageIn) : List UInt8 := messages.flatMap frame

/-- No messages are no bytes. -/
@[simp]
theorem stream_nil : stream [] = [] := rfl

/-- The first message comes first. -/
@[simp]
theorem stream_cons (m : MessageIn) (messages : List MessageIn) :
    stream (m :: messages) = m.frame ++ stream messages := rfl

/-- One more message is one more frame. -/
@[simp]
theorem stream_append (first second : List MessageIn) :
    stream (first ++ second) = stream first ++ stream second := by
  simp [stream]

/-- Only no messages are no bytes. -/
theorem stream_eq_nil {messages : List MessageIn} (empty : stream messages = []) :
    messages = [] := by
  cases messages with
  | nil => rfl
  | cons m rest =>
    have length := congrArg List.length empty
    rw [stream_cons, List.length_append, length_frame, headerSize] at length
    simp at length

end MessageIn

/-- The messages a reader makes of bytes: eight bytes of header, then as many as they say. -/
inductive Framed : List UInt8 → List MessageIn → Prop where
  /-- No bytes, no message. -/
  | nil : Framed [] []
  /-- A header and its payload in front. -/
  | cons {header payload rest : List UInt8} {messages : List MessageIn}
      (sized : header.length = headerSize) (complete : payload.length = sizeOf header)
      (others : Framed rest messages) :
      Framed (header ++ payload ++ rest) (⟨kindOf header, payload⟩ :: messages)

namespace Framed

/-- Reading on after a whole number of messages. -/
theorem append {first second : List UInt8} {before after : List MessageIn}
    (one : Framed first before) (two : Framed second after) :
    Framed (first ++ second) (before ++ after) := by
  induction one with
  | nil => exact two
  | cons sized complete _ ih =>
    rw [List.append_assoc _ _ second]
    exact .cons sized complete ih

/-- One more message at the end. -/
theorem snoc {read header payload : List UInt8} {messages : List MessageIn}
    (before : Framed read messages) (sized : header.length = headerSize)
    (complete : payload.length = sizeOf header) :
    Framed (read ++ header ++ payload) (messages ++ [⟨kindOf header, payload⟩]) := by
  have last := Framed.cons sized complete .nil
  rw [List.append_nil] at last
  rw [List.append_assoc]
  exact before.append last

/-- Two prefixes of one list with the same length are the same. -/
theorem eq_of_prefix {α : Type} {first second others rest : List α}
    (start : first ++ rest <+: second ++ others) (same : first.length = second.length) :
    first = second ∧ rest <+: others := by
  obtain ⟨tail, whole⟩ := start
  rw [List.append_assoc] at whole
  obtain ⟨rfl, rfl⟩ := List.append_inj whole same
  exact ⟨rfl, tail, rfl⟩

/-- From the first bytes of written frames the reader makes the first messages, if it makes
messages of all of them. -/
theorem prefix_of_stream {read : List UInt8} {messages sent : List MessageIn}
    (framed : Framed read messages) (small : ∀ m ∈ sent, m.Small)
    (start : read <+: MessageIn.stream sent) :
    messages <+: sent ∧ read = MessageIn.stream messages := by
  induction framed generalizing sent with
  | nil => exact ⟨List.nil_prefix, rfl⟩
  | @cons header payload rest messages sized complete _ ih =>
    cases sent with
    | nil =>
      have empty := List.prefix_nil.mp start
      have length := congrArg List.length empty
      simp [sized, headerSize] at length
    | cons m sent =>
      rw [MessageIn.stream_cons, MessageIn.frame, List.append_assoc, List.append_assoc] at start
      obtain ⟨rfl, body⟩ := eq_of_prefix start (by rw [sized, length_headerBytes])
      rw [sizeOf_headerBytes _ (small m (by simp))] at complete
      obtain ⟨rfl, others⟩ := eq_of_prefix body complete
      obtain ⟨first, rfl⟩ := ih (fun x member => small x (by simp [member])) others
      rw [kindOf_headerBytes]
      exact ⟨(List.prefix_cons_inj m).mpr first, rfl⟩

end Framed

end XrTransport.Transport
