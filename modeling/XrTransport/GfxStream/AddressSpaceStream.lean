import XrTransport.Foundation.Loops
import XrTransport.GfxStream.RingBufferQueue

/-!
# Large transfers of the address space stream

`writeFully` and `speculativeRead` of `AddressSpaceStream.cpp`. The guest writes to one ring and
reads from another; both lie over one shared buffer, and the host may act whenever the guest looks
at something shared. What the host does is given turn by turn; a program that waits longer than
there are turns has not returned.
-/
namespace XrTransport.GfxStream

open Program (Meets AfterTurn)

/-! ## What guest and host share -/

/-- `ASG_HOST_STATE_CAN_CONSUME`. -/
def asgHostStateCanConsume : UInt32 := 1

/-- `ASG_HOST_STATE_RENDERING`. -/
def asgHostStateRendering : UInt32 := 4

/-- What the host does before the guest looks again. -/
structure HostTurn where
  /-- So many bytes it reads from `to_host_large_xfer`, if there are so many. -/
  takes : Nat
  /-- So many bytes it is done with in `to_host`, if there are so many. -/
  finishes : Nat
  /-- It writes so much of this to `from_host_large_xfer` as there is room for. -/
  puts : List UInt8
  /-- What it sets `host_state` to. -/
  hostState : UInt32
  /-- What it sets `in_error` to. -/
  inError : UInt32
  deriving DecidableEq

/-- The shared memory, the fields of `AddressSpaceStream` that change, and the host. -/
structure Link where
  /-- The memory behind the rings. -/
  memory : Memory
  /-- `to_host`. -/
  toHost : RingBuffer
  /-- The ring of `to_host_large_xfer`. -/
  toHostLargeXfer : RingBuffer
  /-- The ring of `from_host_large_xfer`. -/
  fromHostLargeXfer : RingBuffer
  /-- `host_state`. -/
  hostState : UInt32
  /-- `ring_config->transfer_mode`. -/
  transferMode : UInt32
  /-- `ring_config->transfer_size`. -/
  transferSize : UInt32
  /-- `ring_config->in_error`. -/
  inError : UInt32
  /-- `m_backoffIters`. -/
  backoffIters : UInt64
  /-- `m_backoffFactor`. -/
  backoffFactor : UInt64
  /-- How often the host was pinged. -/
  pings : Nat
  /-- What the host will do. -/
  turns : List HostTurn
  /-- The bytes that the host has read from `to_host_large_xfer`. -/
  received : List UInt8
  /-- The bytes that the host has written to `from_host_large_xfer`. -/
  answered : List UInt8

/-- The fields that stay as the constructor sets them. `asg_context_create` makes the two large
rings of one buffer, so they have one view. -/
structure AsgSetup where
  /-- The view of `to_host_large_xfer` and of `from_host_large_xfer`. -/
  view : RingBufferView
  /-- `m_writeBufferSize`. -/
  writeBufferSize : UInt32

namespace Link

variable (setup : AsgSetup)

/-- The host reads, as `ring_buffer_view_read` does, at most so many of the bytes there are. -/
def hostTakes (s : Link) (count : Nat) : Link :=
  let available := s.toHostLargeXfer.availableRead (some setup.view)
  let toRead := UInt32.ofNat (min count available.toNat)
  { s with
    received :=
      s.received ++ (setup.view.copied s.toHostLargeXfer.readPos toRead).map s.memory
    toHostLargeXfer := s.toHostLargeXfer.advancedRead toRead }

/-- The host writes, as `ring_buffer_view_write` does, as many of the bytes as there is room for.
The whole buffer is then used for writing back: it does so only when nothing is left to read. -/
def hostPuts (s : Link) (bytes : List UInt8) : Link :=
  if s.toHostLargeXfer.availableRead (some setup.view) = 0 then
    let room := s.fromHostLargeXfer.availableWrite (some setup.view)
    let chunk := bytes.take room.toNat
    let stepSize := UInt32.ofNat chunk.length
    { s with
      memory := Circular.store s.memory
        (setup.view.copied s.fromHostLargeXfer.writePos stepSize) chunk
      fromHostLargeXfer := s.fromHostLargeXfer.advancedWrite stepSize
      answered := s.answered ++ chunk }
  else s

/-- The host is done with at most so many bytes in `to_host`. -/
def hostFinishes (s : Link) (count : Nat) : Link :=
  let available := s.toHost.availableRead none
  { s with toHost := s.toHost.advancedRead (UInt32.ofNat (min count available.toNat)) }

/-- A turn of the host. -/
def hostActs (s : Link) (turn : HostTurn) : Link :=
  { (((s.hostTakes setup turn.takes).hostFinishes turn.finishes).hostPuts setup turn.puts) with
    hostState := turn.hostState, inError := turn.inError }

/-- The guest looks at something shared: the host has acted before. -/
def await : Program Link Unit := fun s =>
  match s.turns with
  | [] => (none, s)
  | turn :: rest => (some ⟨⟩, ({ s with turns := rest } : Link).hostActs setup turn)

/-- A loop of the guest. It looks at least once in every turn, so the turns of the host are enough
fuel. -/
def untilTurns {α β : Type} (body : β → Program Link (β ⊕ α)) (start : β) : Program Link α :=
  fun s => Program.loop body (s.turns.length + 1) start s

/-! ## Functions of the stream -/

/-- `notifyAvailable`. -/
def notifyAvailable : Program Link Unit :=
  Program.modify fun s => { s with pings := s.pings + 1 }

/-- `backoff`. -/
def backoff : Program Link Unit :=
  Program.modify fun s =>
    let iters := s.backoffIters + 1
    if iters > 50000000 then
      if (iters - 50000000).toUInt32 > 50000000 then
        let factor := s.backoffFactor <<< 1
        { s with backoffFactor := if factor > 1000 then 1000 else factor,
                 backoffIters := 50000000 }
      else { s with backoffIters := iters }
    else { s with backoffIters := iters }

/-- `resetBackoff`. -/
def resetBackoff : Program Link Unit :=
  Program.modify fun s => { s with backoffIters := 0, backoffFactor := 1 }

/-- `isInError`. -/
def isInError : Program Link Bool := do
  await setup
  let s ← Program.get
  pure (decide (s.inError = 1))

/-- Whether the host neither can consume nor renders. -/
def hostSleeps : Program Link Bool := do
  await setup
  let s ← Program.get
  if s.hostState = asgHostStateCanConsume then pure false
  else
    await setup
    let s ← Program.get
    pure (decide (s.hostState ≠ asgHostStateRendering))

/-- `ring_buffer_available_read` of `to_host_large_xfer`. -/
def availReadLarge : Program Link UInt32 := do
  await setup
  let s ← Program.get
  pure (s.toHostLargeXfer.availableRead (some setup.view))

/-- `ring_buffer_available_read` of `to_host`. -/
def availReadType1 : Program Link UInt32 := do
  await setup
  let s ← Program.get
  pure (s.toHost.availableRead none)

/-- `ensureType3Finished`. -/
def ensureType3Finished : Program Link Unit := do
  let available ← availReadLarge setup
  untilTurns (fun available => do
    if available = 0 then pure (.inr ())
    else
      backoff
      let next ← availReadLarge setup
      let sleeps ← hostSleeps setup
      (if sleeps then notifyAvailable else pure ())
      let failed ← isInError setup
      pure (if failed then .inr () else .inl next)) available

/-- `ensureType1Finished`. -/
def ensureType1Finished : Program Link Unit := do
  let available ← availReadType1 setup
  untilTurns (fun available => do
    if available = 0 then pure (.inr ())
    else
      backoff
      let next ← availReadType1 setup
      let failed ← isInError setup
      pure (if failed then .inr () else .inl next)) available

/-- One step of at most so many bytes to `to_host_large_xfer`, and whether it was made. -/
def writeChunk (data : Memory) (sent sendThisTime : Nat) : Program Link UInt32 := do
  await setup
  let s ← Program.get
  let written := s.toHostLargeXfer.viewWrite setup.view s.memory
    (fun offset => data (sent + offset)) (UInt32.ofNat sendThisTime) 1
  Program.modify fun s => { s with toHostLargeXfer := written.2.1, memory := written.2.2 }
  pure written.1.steps

/-- The loop of `writeFully`; it carries what is sent and whether the host was pinged. The result
is whether the loop was left by an error. -/
def sendLoop (data : Memory) (size chunkSize : Nat) : Program Link Bool :=
  untilTurns (fun (sent, hostPinged) => do
    if sent < size then
      let remaining := size - sent
      let sendThisTime := if remaining < chunkSize then remaining else chunkSize
      let sentChunks ← writeChunk setup data sent sendThisTime
      let sleeps ← (if hostPinged then pure false else hostSleeps setup)
      (if sleeps then notifyAvailable else pure ())
      (if sentChunks = 0 then backoff else pure ())
      let failed ← isInError setup
      pure (if failed then .inr true
        else .inl (sent + sentChunks.toNat * sendThisTime, hostPinged || sleeps))
    else pure (.inr false)) (0, false)

/-- `writeFully`, without the counters of the debug output. -/
def writeFully (data : Memory) (size : Nat) : Program Link Int := do
  ensureType3Finished setup
  ensureType1Finished setup
  Program.modify fun s => { s with transferSize := UInt32.ofNat size, transferMode := 3 }
  let preferredChunkSize := (setup.writeBufferSize / 4).toNat
  let chunkSize := if size < preferredChunkSize then size else preferredChunkSize
  let failed ← sendLoop setup data size chunkSize
  if failed then pure (-1)
  else
    await setup
    let s ← Program.get
    (if s.hostState ≠ asgHostStateRendering then notifyAvailable else pure ())
    ensureType3Finished setup
    resetBackoff
    Program.modify fun s => { s with transferMode := 1 }
    pure 0

/-- `ring_buffer_available_read` of `from_host_large_xfer`. -/
def availReadBack : Program Link UInt32 := do
  await setup
  let s ← Program.get
  pure (s.fromHostLargeXfer.availableRead (some setup.view))

/-- One step of so many bytes from `from_host_large_xfer`: whether it was made, and what is in the
array of the caller then. -/
def takeChunk (readBuffer : Memory) (toRead : UInt32) : Program Link (UInt32 × Memory) := do
  await setup
  let s ← Program.get
  let taken := s.fromHostLargeXfer.viewRead setup.view s.memory readBuffer toRead 1
  Program.modify fun s => { s with fromHostLargeXfer := taken.2.1 }
  pure (taken.1.steps, taken.2.2)

/-- `speculativeRead`: the number of bytes or minus one, and what is in the array of the caller. -/
def speculativeRead (readBuffer : Memory) (trySize : Nat) : Program Link (Int × Memory) := do
  ensureType3Finished setup
  ensureType1Finished setup
  untilTurns (fun readBuffer => do
    let readAvail ← availReadBack setup
    if readAvail = 0 then
      backoff
      pure (.inl readBuffer)
    else
      let toRead := if readAvail.toNat > trySize then UInt32.ofNat trySize else readAvail
      let stepsRead ← takeChunk setup readBuffer toRead
      let actuallyRead := stepsRead.1.toNat * toRead.toNat
      let failed ← isInError setup
      pure (if failed then .inr (-1, stepsRead.2)
        else if actuallyRead = 0 then .inl stepsRead.2
        else .inr ((actuallyRead : Int), stepsRead.2)))
    readBuffer

/-- A loop of the guest, where each turn of the loop takes a turn of the host. -/
theorem meets_untilTurns {α β : Type} {body : β → Program Link (β ⊕ α)}
    (invariant : β → Link → Prop)
    {returns : α → Link → Prop} {throws : Link → Prop}
    (kept : ∀ carried bound, Meets (fun s => invariant carried s ∧ s.turns.length ≤ bound)
      (body carried)
      (AfterTurn (fun next s => invariant next s ∧ s.turns.length < bound) returns) throws)
    (start : β) : Meets (invariant start) (untilTurns body start) returns throws :=
  fun s holds => Meets.loop_total invariant (fun _ s => s.turns.length) kept start s
    ⟨holds, Nat.lt_succ_self _⟩

end Link

/-! ## What the host leaves alone -/

/-- The host finishes nothing when nothing waits in `to_host`. -/
theorem Link.hostFinishes_of_empty {s : Link} (empty : s.toHost.availableRead none = 0)
    (count : Nat) : s.hostFinishes count = s := by
  have nothing : UInt32.ofNat (min count (s.toHost.availableRead none).toNat) = 0 := by
    rw [empty, UInt32.toNat_zero, Nat.min_zero]
    rfl
  rw [Link.hostFinishes, nothing, RingBuffer.advancedRead, UInt32.add_zero]

/-- The unread bytes in both directions. The two rings lie over one buffer, so that at most one of
them has unread bytes. -/
structure Linked (setup : AsgSetup) (up down : List UInt8) (s : Link) : Prop where
  /-- The bytes that the host has still to read. -/
  upward : Contents s.toHostLargeXfer setup.view s.memory up
  /-- The bytes that the guest has still to read. -/
  downward : Contents s.fromHostLargeXfer setup.view s.memory down
  /-- The buffer is used in one direction. -/
  half : up = [] ∨ down = []

/-- An empty ring stays empty when memory changes. -/
theorem Contents.nil_of_memory {r : RingBuffer} {v : RingBufferView} {memory : Memory}
    (contents : Contents r v memory []) (memory' : Memory) : Contents r v memory' [] :=
  ⟨contents.count, contents.room, Circular.holds_nil⟩

/-- A ring is empty when nothing is available. -/
theorem Contents.availableRead_eq_zero_iff {r : RingBuffer} {v : RingBufferView} {memory : Memory}
    {bytes : List UInt8} (contents : Contents r v memory bytes) :
    r.availableRead (some v) = 0 ↔ bytes = [] := by
  have available := contents.toNat_availableRead
  rw [RingBuffer.availableRead, Option.getD_some, ← UInt32.toNat_inj, available,
    UInt32.toNat_zero, List.length_eq_zero_iff]

namespace Linked

variable {setup : AsgSetup} {up down : List UInt8} {s : Link}

/-- The host reads the oldest bytes. -/
theorem hostTakes (linked : Linked setup up down s) (count : Nat) :
    Linked setup (up.drop (min count up.length)) down (s.hostTakes setup count) ∧
    (s.hostTakes setup count).received = s.received ++ up.take (min count up.length) := by
  have available := linked.upward.toNat_availableRead
  have room := linked.upward.room
  have wide := setup.view.size.toNat_lt
  have step : (UInt32.ofNat (min count
      (s.toHostLargeXfer.availableRead (some setup.view)).toNat)).toNat = min count up.length := by
    rw [RingBuffer.availableRead, Option.getD_some, available, UInt32.toNat_ofNat']
    exact Nat.mod_eq_of_lt (by omega)
  have enough : (UInt32.ofNat (min count
      (s.toHostLargeXfer.availableRead (some setup.view)).toNat)).toNat ≤ up.length := by
    rw [step]
    exact Nat.min_le_right _ _
  have after := linked.upward.advancedRead enough
  have oldest := linked.upward.map_copied enough
  rw [step] at after oldest
  constructor
  · refine ⟨after, linked.downward, ?_⟩
    rcases linked.half with empty | empty
    · left
      rw [empty, List.drop_nil]
    · exact .inr empty
  · exact congrArg (s.received ++ ·) oldest

/-- The host writes back when nothing is left to read. -/
theorem hostPuts (linked : Linked setup up down s) (bytes : List UInt8) :
    ∃ batch, Linked setup up (down ++ batch) (s.hostPuts setup bytes) ∧
      (s.hostPuts setup bytes).answered = s.answered ++ batch ∧
      (bytes = [] → batch = []) := by
  by_cases empty : s.toHostLargeXfer.availableRead (some setup.view) = 0
  · have nothing := linked.upward.availableRead_eq_zero_iff.mp empty
    subst nothing
    have free := linked.downward.toNat_availableWrite
    have room := linked.downward.room
    have wide := setup.view.size.toNat_lt
    have limit : (s.fromHostLargeXfer.availableWrite (some setup.view)).toNat =
        setup.view.size.toNat - 1 - down.length := free
    have short : (bytes.take (s.fromHostLargeXfer.availableWrite (some setup.view)).toNat).length ≤
        setup.view.size.toNat - 1 - down.length := by
      rw [List.length_take, limit]
      exact Nat.min_le_left _ _
    have step : (UInt32.ofNat (bytes.take
        (s.fromHostLargeXfer.availableWrite (some setup.view)).toNat).length).toNat =
          (bytes.take (s.fromHostLargeXfer.availableWrite (some setup.view)).toNat).length := by
      rw [UInt32.toNat_ofNat']
      exact Nat.mod_eq_of_lt (by omega)
    refine ⟨bytes.take (s.fromHostLargeXfer.availableWrite (some setup.view)).toNat, ?_, ?_, ?_⟩
    · rw [Link.hostPuts, if_pos empty]
      exact ⟨linked.upward.nil_of_memory _,
        linked.downward.advancedWrite step.symm (by rw [step]; omega), .inl rfl⟩
    · rw [Link.hostPuts, if_pos empty]
    · rintro rfl
      exact List.take_nil
  · refine ⟨[], ?_, ?_, fun _ => rfl⟩
    · rw [Link.hostPuts, if_neg empty, List.append_nil]
      exact linked
    · rw [Link.hostPuts, if_neg empty, List.append_nil]

/-- What a turn of the host leaves behind. -/
theorem hostActs (linked : Linked setup up down s) (turn : HostTurn) :
    ∃ batch, Linked setup (up.drop (min turn.takes up.length)) (down ++ batch)
        (s.hostActs setup turn) ∧
      (s.hostActs setup turn).received = s.received ++ up.take (min turn.takes up.length) ∧
      (s.hostActs setup turn).answered = s.answered ++ batch ∧
      (turn.puts = [] → batch = []) := by
  obtain ⟨taken, received⟩ := linked.hostTakes turn.takes
  have finished : Linked setup (up.drop (min turn.takes up.length)) down
      ((s.hostTakes setup turn.takes).hostFinishes turn.finishes) :=
    ⟨taken.upward, taken.downward, taken.half⟩
  obtain ⟨batch, put, answered, nothing⟩ := finished.hostPuts turn.puts
  have kept : ∀ t : Link, (t.hostPuts setup turn.puts).received = t.received := by
    intro t
    rw [Link.hostPuts]
    split
    · rfl
    · rfl
  exact ⟨batch, ⟨put.upward, put.downward, put.half⟩, (kept _).trans received, answered, nothing⟩

end Linked

namespace Link

/-- A turn of the host leaves the modes alone, and does not fill `to_host`. -/
theorem hostActs_frame (setup : AsgSetup) (s : Link) (turn : HostTurn) :
    (s.hostActs setup turn).turns = s.turns ∧
    (s.hostActs setup turn).transferMode = s.transferMode ∧
    (s.toHost.availableRead none = 0 →
      (s.hostActs setup turn).toHost.availableRead none = 0) := by
  have put : ∀ t : Link, (t.hostPuts setup turn.puts).turns = t.turns ∧
      (t.hostPuts setup turn.puts).transferMode = t.transferMode ∧
      (t.hostPuts setup turn.puts).toHost = t.toHost := by
    intro t
    rw [hostPuts]
    split
    · exact ⟨rfl, rfl, rfl⟩
    · exact ⟨rfl, rfl, rfl⟩
  obtain ⟨turns, mode, same⟩ := put ((s.hostTakes setup turn.takes).hostFinishes turn.finishes)
  refine ⟨turns, mode, fun empty => ?_⟩
  have idle : (s.hostTakes setup turn.takes).toHost.availableRead none = 0 := empty
  have kept := same.trans (congrArg Link.toHost (hostFinishes_of_empty idle turn.finishes))
  exact (congrArg (RingBuffer.availableRead · none) kept).trans idle

end Link

end XrTransport.GfxStream
