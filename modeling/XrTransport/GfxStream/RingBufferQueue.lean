import XrTransport.Foundation.BoundedFifo
import XrTransport.GfxStream.RingBuffer

/-!
# A ring is a bounded queue

Whatever is called on a ring, it answers as a queue that holds one byte less than its block: a call
in steps makes as many steps as fit, whole and in order, and says so. Only
`ring_buffer_copy_contents` without a view is different. It splits the copy at the wrong place and
stays inside the buffer exactly when the wanted bytes do not go around its end.
-/
namespace XrTransport.GfxStream

open Circular (Holds slot slots store)
open BoundedFifo (fitting)

/-! ## Steps of a transfer -/

/-- Consecutive parts of an array. -/
theorem bytesFrom_append (data : Memory) (offset first second : Nat) :
    bytesFrom data offset (first + second) =
      bytesFrom data offset first ++ bytesFrom data (offset + first) second := by
  rw [bytesFrom, bytesFrom, bytesFrom, ← List.map_append, List.range'_append_1]

/-- A part of an array is a part of the array from a later place. -/
theorem bytesFrom_shift (data : Memory) (start count : Nat) :
    bytesFrom (fun offset => data (start + offset)) 0 count = bytesFrom data start count := by
  have places : (List.range' 0 count).map (start + ·) = List.range' start count := by
    apply List.map_add_range'
  rw [bytesFrom, bytesFrom, ← places, List.map_map]
  rfl

/-- A part of an array has its length. -/
@[simp]
theorem length_bytesFrom (data : Memory) (offset count : Nat) :
    (bytesFrom data offset count).length = count := by
  simp [bytesFrom]

/-- The offset of a step does not wrap while the steps fit a ring. -/
theorem toNat_offset (i stepSize : UInt32) {limit : Nat} (small : limit < 2 ^ 32)
    (reached : i.toNat * stepSize.toNat ≤ limit) :
    (i * stepSize).toNat = i.toNat * stepSize.toNat := by
  rw [UInt32.toNat_mul]
  exact Nat.mod_eq_of_lt (by omega)

/-- The next step does not wrap while steps are left. -/
theorem toNat_next {i : UInt32} {left : Nat} (steps : i.toNat + (left + 1) < 2 ^ 32) :
    (i + 1).toNat = i.toNat + 1 := by
  rw [UInt32.toNat_add, UInt32.toNat_one]
  exact Nat.mod_eq_of_lt (by omega)

namespace RingBuffer

variable {r : RingBuffer} {v : RingBufferView} {memory : Memory} {bytes : List UInt8}

/-- One step is written when there is room for it. -/
theorem viewWrite_one (r : RingBuffer) (v : RingBufferView) (memory data : Memory)
    (stepSize : UInt32) :
    r.viewWrite v memory data stepSize 1 =
      if r.viewCanWrite v stepSize then
        (⟨1, 0⟩, r.advancedWrite stepSize,
          store memory (v.copied r.writePos stepSize) (bytesFrom data 0 stepSize.toNat))
      else (⟨0, -eagain⟩, r, memory) := by
  have offset : (0 * stepSize).toNat = 0 := by
    rw [UInt32.zero_mul]
    rfl
  rw [viewWrite, show (1 : UInt32).toNat = 0 + 1 from rfl, viewWriteFrom, offset]
  rfl

/-- One step is read when there are enough bytes. -/
theorem viewRead_one (r : RingBuffer) (v : RingBufferView) (memory data : Memory)
    (stepSize : UInt32) :
    r.viewRead v memory data stepSize 1 =
      if r.viewCanRead v stepSize then
        (⟨1, 0⟩, r.advancedRead stepSize,
          store data (List.range' 0 stepSize.toNat) ((v.copied r.readPos stepSize).map memory))
      else (⟨0, -eagain⟩, r, data) := by
  have offset : (0 * stepSize).toNat = 0 := by
    rw [UInt32.zero_mul]
    rfl
  rw [viewRead, show (1 : UInt32).toNat = 0 + 1 from rfl, viewReadFrom, offset]
  rfl

/-- The loop that writes makes the steps that fit and stores their bytes behind the others. -/
theorem viewWriteFrom_spec (data : Memory) (stepSize i : UInt32) (left : Nat)
    (contents : Contents r v memory bytes) (reached : i.toNat * stepSize.toNat ≤ bytes.length)
    (steps : i.toNat + left < 2 ^ 32) :
    let made := fitting (v.size.toNat - 1 - bytes.length) stepSize.toNat left
    let result := viewWriteFrom v data stepSize left i r memory
    result.1 = ⟨UInt32.ofNat (i.toNat + made), if made = left then 0 else -eagain⟩ ∧
    result.2.1.buf = r.buf ∧
    Contents result.2.1 v result.2.2
      (bytes ++ bytesFrom data (i.toNat * stepSize.toNat) (made * stepSize.toNat)) ∧
    ∀ address, address < v.buf ∨ v.buf + v.size.toNat ≤ address →
      result.2.2 address = memory address := by
  induction left generalizing i r memory bytes with
  | zero =>
    rw [BoundedFifo.fitting_zero]
    refine ⟨?_, rfl, ?_, fun _ _ => rfl⟩
    · simp [viewWriteFrom]
    · simpa [viewWriteFrom, bytesFrom] using contents
  | succ left ih =>
    have room := contents.room
    have wide := v.size.toNat_lt
    by_cases fits : r.viewCanWrite v stepSize
    · have free := contents.viewCanWrite_iff.mp fits
      have offset := toNat_offset i stepSize (by omega : bytes.length < 2 ^ 32) reached
      have next := toNat_next steps
      have chunk : (bytesFrom data (i * stepSize).toNat stepSize.toNat).length =
          stepSize.toNat := length_bytesFrom data _ _
      have onward := contents.advancedWrite chunk free
      have further : (i + 1).toNat * stepSize.toNat ≤
          (bytes ++ bytesFrom data (i * stepSize).toNat stepSize.toNat).length := by
        rw [List.length_append, chunk, next, Nat.succ_mul]
        omega
      obtain ⟨progress, place, after, outside⟩ := ih (i + 1) onward further (by omega)
      have less : v.size.toNat - 1 -
          (bytes ++ bytesFrom data (i * stepSize).toNat stepSize.toNat).length =
            v.size.toNat - 1 - bytes.length - stepSize.toNat := by
        rw [List.length_append, chunk]
        omega
      rw [BoundedFifo.fitting_succ (by omega), viewWriteFrom, if_pos fits]
      rw [less] at progress after
      refine ⟨?_, place, ?_, ?_⟩
      · rw [progress, next]
        congr 1
        · rw [Nat.add_assoc, Nat.add_comm 1]
        · simp
      · have parts := bytesFrom_append data (i.toNat * stepSize.toNat) stepSize.toNat
          (fitting (v.size.toNat - 1 - bytes.length - stepSize.toNat) stepSize.toNat left *
            stepSize.toNat)
        rw [Nat.succ_mul, Nat.add_comm (_ * _), parts, ← List.append_assoc, ← offset]
        rw [next, Nat.succ_mul, ← offset] at after
        exact after
      · intro address apart
        rw [outside address apart]
        apply Circular.store_of_not_mem
        rw [contents.copied_writePos (by omega), Circular.mem_slots]
        rintro ⟨step, _, same⟩
        have bounds := Circular.slot_bounds v.buf v.size_pos
          (r.readPos.toNat + bytes.length + step)
        omega
    · have full : v.size.toNat - 1 - bytes.length < stepSize.toNat := by
        rw [contents.viewCanWrite_iff] at fits
        omega
      rw [BoundedFifo.fitting_of_lt full, viewWriteFrom, if_neg fits]
      refine ⟨?_, rfl, ?_, fun _ _ => rfl⟩
      · simp
      · simpa [bytesFrom] using contents

/-- The loop that reads makes the steps for which there are bytes and takes the oldest. -/
theorem viewReadFrom_spec (data : Memory) (stepSize i : UInt32) (left : Nat) {total : Nat}
    (contents : Contents r v memory bytes)
    (reached : i.toNat * stepSize.toNat + bytes.length ≤ total) (small : total < 2 ^ 32)
    (steps : i.toNat + left < 2 ^ 32) :
    let made := fitting bytes.length stepSize.toNat left
    let result := viewReadFrom v memory stepSize left i r data
    result.1 = ⟨UInt32.ofNat (i.toNat + made), if made = left then 0 else -eagain⟩ ∧
    result.2.1.buf = r.buf ∧
    result.2.2 = store data
      (List.range' (i.toNat * stepSize.toNat) (made * stepSize.toNat))
      (bytes.take (made * stepSize.toNat)) ∧
    Contents result.2.1 v memory (bytes.drop (made * stepSize.toNat)) := by
  induction left generalizing i r data bytes with
  | zero =>
    rw [BoundedFifo.fitting_zero]
    refine ⟨?_, rfl, ?_, ?_⟩
    · simp [viewReadFrom]
    · simp [viewReadFrom, store]
    · simpa [viewReadFrom] using contents
  | succ left ih =>
    by_cases there : r.viewCanRead v stepSize
    · have enough := contents.viewCanRead_iff.mp there
      have offset := toNat_offset i stepSize small (by omega)
      have next := toNat_next steps
      have onward := contents.advancedRead enough
      have length : (bytes.drop stepSize.toNat).length = bytes.length - stepSize.toNat :=
        List.length_drop
      have further : (i + 1).toNat * stepSize.toNat + (bytes.drop stepSize.toNat).length ≤
          total := by
        rw [length, next, Nat.succ_mul]
        omega
      obtain ⟨progress, place, taken, after⟩ := ih
        (store data (List.range' (i * stepSize).toNat stepSize.toNat)
          ((v.copied r.readPos stepSize).map memory)) (i + 1) onward further (by omega)
      rw [length] at progress taken after
      rw [BoundedFifo.fitting_succ enough, viewReadFrom, if_pos there]
      refine ⟨?_, place, ?_, ?_⟩
      · rw [progress, next]
        congr 1
        · rw [Nat.add_assoc, Nat.add_comm 1]
        · simp
      · have order : bytes.take (stepSize.toNat +
            fitting (bytes.length - stepSize.toNat) stepSize.toNat left * stepSize.toNat) =
            bytes.take stepSize.toNat ++ (bytes.drop stepSize.toNat).take
              (fitting (bytes.length - stepSize.toNat) stepSize.toNat left * stepSize.toNat) :=
          List.take_add
        rw [taken, contents.map_copied enough, Nat.succ_mul, Nat.add_comm (_ * _), order,
          ← List.range'_append_1, Circular.store_append, offset, next, Nat.succ_mul]
        simp [Nat.min_eq_left enough]
      · rw [List.drop_drop] at after
        rwa [Nat.succ_mul, Nat.add_comm (_ * _)]
    · have short : bytes.length < stepSize.toNat := by
        rw [contents.viewCanRead_iff] at there
        omega
      rw [BoundedFifo.fitting_of_lt short, viewReadFrom, if_neg there]
      refine ⟨?_, rfl, ?_, ?_⟩
      · simp
      · simp [store]
      · simpa using contents

/-- With a view the copy is made of the oldest bytes, which stay in the ring. -/
theorem copyContents_view (contents : Contents r v memory bytes) (wantedBytes : UInt32)
    (res : Memory) :
    r.copyContents (some v) memory wantedBytes res =
      if wantedBytes.toNat ≤ bytes.length then
        (0, store res (List.range' 0 wantedBytes.toNat) (bytes.take wantedBytes.toNat))
      else (-1, res) := by
  have available := contents.toNat_availableRead
  simp only [copyContents, availableRead, Option.getD_some, UInt32.lt_iff_toNat_lt, available]
  by_cases enough : wantedBytes.toNat ≤ bytes.length
  · rw [if_neg (by omega), if_pos enough]
    exact congrArg (fun copy => (0, store res _ copy)) (contents.map_copied enough)
  · rw [if_pos (by omega), if_neg enough]

end RingBuffer

/-! ## Calls -/

/-- What can be called on a ring, with what is passed. -/
inductive RingCall
  /-- `ring_buffer_write` and `ring_buffer_view_write`. -/
  | write (data : Memory) (stepSize steps : UInt32)
  /-- `ring_buffer_read` and `ring_buffer_view_read`. -/
  | read (data : Memory) (stepSize steps : UInt32)
  /-- `ring_buffer_available_read`. -/
  | availableRead
  /-- `ring_buffer_available_write`. -/
  | availableWrite
  /-- `ring_buffer_copy_contents`. -/
  | copyContents (wantedBytes : UInt32) (res : Memory)

/-- Whether a call copies the contents. -/
def RingCall.copies : RingCall → Bool
  | .copyContents _ _ => true
  | _ => false

/-- What a call returns, and what is in the array of the caller afterwards. -/
inductive RingAnswer
  /-- Of a call in steps. -/
  | progress (progress : Progress) (data : Memory)
  /-- Of a question. -/
  | count (count : Nat)
  /-- Of a copy. -/
  | copied (code : Int) (res : Memory)

namespace RingCall

/-- A call on a ring, with a view or without. -/
def onRing (v : Option RingBufferView) (r : RingBuffer) (memory : Memory) :
    RingCall → RingAnswer × RingBuffer × Memory
  | write data stepSize steps =>
    let (progress, r', memory') := match v with
      | some v => r.viewWrite v memory data stepSize steps
      | none => r.write memory data stepSize steps
    (.progress progress data, r', memory')
  | read data stepSize steps =>
    let (progress, r', data') := match v with
      | some v => r.viewRead v memory data stepSize steps
      | none => r.read memory data stepSize steps
    (.progress progress data', r', memory)
  | availableRead => (.count (r.availableRead v).toNat, r, memory)
  | availableWrite => (.count (r.availableWrite v).toNat, r, memory)
  | copyContents wantedBytes res =>
    let (code, res') := r.copyContents v memory wantedBytes res
    (.copied code res', r, memory)

/-- Whether all steps were made. -/
def progressOf (made : Nat) (steps : UInt32) : Progress :=
  ⟨UInt32.ofNat made, if made = steps.toNat then 0 else -eagain⟩

/-- The same call on a queue. -/
def onQueue {capacity : Nat} (q : BoundedFifo UInt8 capacity) :
    RingCall → RingAnswer × BoundedFifo UInt8 capacity
  | write data stepSize steps =>
    let made := fitting q.free stepSize.toNat steps.toNat
    (.progress (progressOf made steps) data,
      (q.push (bytesFrom data 0 (made * stepSize.toNat))).getD q)
  | read data stepSize steps =>
    let made := fitting q.items.length stepSize.toNat steps.toNat
    let count := made * stepSize.toNat
    (.progress (progressOf made steps) (store data (List.range' 0 count) (q.items.take count)),
      q.drop count)
  | availableRead => (.count q.items.length, q)
  | availableWrite => (.count q.free, q)
  | copyContents wantedBytes res =>
    (if wantedBytes.toNat ≤ q.items.length then
      .copied 0 (store res (List.range' 0 wantedBytes.toNat) (q.items.take wantedBytes.toNat))
    else .copied (-1) res, q)

/-- The answers of a ring to calls one after the other, and how they leave it. -/
def answersOfRing (v : Option RingBufferView) :
    List RingCall → RingBuffer → Memory → List RingAnswer × RingBuffer × Memory
  | [], r, memory => ([], r, memory)
  | call :: calls, r, memory =>
    let (answer, r', memory') := call.onRing v r memory
    let (answers, after) := answersOfRing v calls r' memory'
    (answer :: answers, after)

/-- The answers of a queue. -/
def answersOfQueue {capacity : Nat} :
    List RingCall → BoundedFifo UInt8 capacity → List RingAnswer × BoundedFifo UInt8 capacity
  | [], q => ([], q)
  | call :: calls, q =>
    let (answer, q') := call.onQueue q
    let (answers, after) := answersOfQueue calls q'
    (answer :: answers, after)

variable {r : RingBuffer} {v : Option RingBufferView} {memory : Memory} {capacity : Nat}

/-- The block that a call uses. -/
abbrev block (v : Option RingBufferView) (r : RingBuffer) : RingBufferView := v.getD r.static

/-- The same block is used while the buffer of the ring stays where it is. -/
theorem block_congr {r' : RingBuffer} (place : r'.buf = r.buf) : block v r' = block v r := by
  rw [block, block, RingBuffer.static, RingBuffer.static, place]

/-- Writing with or without a view. -/
theorem onRing_write (data : Memory) (stepSize steps : UInt32) :
    (write data stepSize steps).onRing v r memory =
      let result := r.viewWrite (block v r) memory data stepSize steps
      (.progress result.1 data, result.2) := by
  cases v <;> rfl

/-- Reading with or without a view. -/
theorem onRing_read (data : Memory) (stepSize steps : UInt32) :
    (read data stepSize steps).onRing v r memory =
      let result := r.viewRead (block v r) memory data stepSize steps
      (.progress result.1 result.2.2, result.2.1, memory) := by
  cases v <;> rfl

/-- A ring answers as the queue of its unread bytes, and changes its own block only. -/
theorem onRing_spec (call : RingCall) (viewed : v.isSome ∨ call.copies = false)
    {q : BoundedFifo UInt8 ((block v r).size.toNat - 1)}
    (contents : Contents r (block v r) memory q.items) :
    (call.onRing v r memory).1 = (call.onQueue q).1 ∧
    (call.onRing v r memory).2.1.buf = r.buf ∧
    Contents (call.onRing v r memory).2.1 (block v r) (call.onRing v r memory).2.2
      (call.onQueue q).2.items ∧
    ∀ address, address < (block v r).buf ∨ (block v r).buf + (block v r).size.toNat ≤ address →
      (call.onRing v r memory).2.2 address = memory address := by
  have room := contents.room
  cases call with
  | write data stepSize steps =>
    obtain ⟨progress, place, after, outside⟩ := RingBuffer.viewWriteFrom_spec data
      stepSize 0 steps.toNat contents (by simp) (by simpa using steps.toNat_lt)
    rw [onRing_write]
    refine ⟨?_, place, ?_, outside⟩
    · simp only [RingBuffer.viewWrite, progress, onQueue, progressOf, BoundedFifo.free]
      simp
      rfl
    · have together : (bytesFrom data 0
          (fitting q.free stepSize.toNat steps.toNat * stepSize.toNat)).length ≤ q.free := by
        rw [length_bytesFrom]
        exact BoundedFifo.fitting_mul_le q.free stepSize.toNat steps.toNat
      rw [UInt32.toNat_zero, Nat.zero_mul] at after
      simp only [onQueue, BoundedFifo.items_push_getD together]
      exact after
  | read data stepSize steps =>
    obtain ⟨progress, place, taken, after⟩ := RingBuffer.viewReadFrom_spec data
      stepSize 0 steps.toNat contents (by simp : _ ≤ q.items.length)
      (by have wide := (block v r).size.toNat_lt; omega) (by simpa using steps.toNat_lt)
    rw [onRing_read]
    refine ⟨?_, place, after, fun _ _ => rfl⟩
    simp only [RingBuffer.viewRead, progress, taken, onQueue, progressOf]
    simp
  | availableRead =>
    exact ⟨congrArg RingAnswer.count contents.toNat_availableRead, rfl, contents, fun _ _ => rfl⟩
  | availableWrite =>
    exact ⟨congrArg RingAnswer.count contents.toNat_availableWrite, rfl, contents, fun _ _ => rfl⟩
  | copyContents wantedBytes res =>
    refine ⟨?_, rfl, contents, fun _ _ => rfl⟩
    cases v with
    | none => exact absurd viewed (by simp [copies])
    | some v =>
      have copy : r.copyContents (some v) memory wantedBytes res = _ :=
        RingBuffer.copyContents_view contents wantedBytes res
      simp only [onRing, onQueue, copy]
      split <;> rfl

/-- The answers to many calls, from a ring whose unread bytes are those of the queue. -/
theorem answers_spec {b : RingBufferView} {calls : List RingCall}
    (viewed : ∀ call ∈ calls, v.isSome ∨ call.copies = false) (used : block v r = b)
    {q : BoundedFifo UInt8 (b.size.toNat - 1)} (contents : Contents r b memory q.items) :
    (answersOfRing v calls r memory).1 = (answersOfQueue calls q).1 ∧
    ∀ address, address < b.buf ∨ b.buf + b.size.toNat ≤ address →
      (answersOfRing v calls r memory).2.2 address = memory address := by
  induction calls generalizing r memory q with
  | nil => exact ⟨rfl, fun _ _ => rfl⟩
  | cons call calls ih =>
    subst used
    obtain ⟨answer, place, after, outside⟩ := onRing_spec call (viewed call (by simp)) contents
    have later : ∀ call ∈ calls, v.isSome ∨ call.copies = false :=
      fun call member => viewed call (by simp [member])
    obtain ⟨answers, outside'⟩ := ih later (block_congr place) after
    refine ⟨?_, ?_⟩
    · simp only [answersOfRing, answersOfQueue, answer, answers]
    · intro address apart
      exact (outside' address apart).trans (outside address apart)

/-- From `ring_buffer_init` on a ring answers every sequence of calls as an empty queue would that
holds one byte less than the block, and changes nothing outside the block. -/
theorem ring_answers_as_queue (v : Option RingBufferView) (r : RingBuffer) (memory : Memory)
    (calls : List RingCall) (viewed : ∀ call ∈ calls, v.isSome ∨ call.copies = false) :
    let queue : BoundedFifo UInt8 ((block v r).size.toNat - 1) := .empty
    (answersOfRing v calls r.init memory).1 = (answersOfQueue calls queue).1 ∧
    ∀ address, address < (block v r).buf ∨ (block v r).buf + (block v r).size.toNat ≤ address →
      (answersOfRing v calls r.init memory).2.2 address = memory address := by
  have used : block v r.init = block v r := block_congr rfl
  exact answers_spec viewed used (Contents.init r (block v r) memory)

/-- Of two steps of 1500 bytes one fits the static buffer, and the other is refused. -/
theorem second_step_refused :
    (answersOfRing none [.write (fun _ => 7) 1500 2]
      (RingBuffer.init ⟨0, 0, 0, 0, 0, 0, 4096, 0⟩) (fun _ => 0)).1 =
        [.progress ⟨1, -eagain⟩ fun _ => 7] :=
  (ring_answers_as_queue none ⟨0, 0, 0, 0, 0, 0, 4096, 0⟩ (fun _ => 0)
    [.write (fun _ => 7) 1500 2] (by decide)).1.trans rfl

end RingCall

/-! ## Copies without a view -/

namespace RingBuffer

variable {r : RingBuffer} {v : RingBufferView} {memory : Memory} {bytes : List UInt8}

/-- Before the end of the block a copy may be split anywhere. -/
theorem copiedSplit_eq_slots {position availableAtEnd stepSize : UInt32}
    (fits : position.toNat % v.size.toNat + stepSize.toNat ≤ v.size.toNat) :
    v.copiedSplit position availableAtEnd stepSize =
      slots v.buf v.size.toNat position.toNat stepSize.toNat := by
  have place := v.toNat_getRingPos position
  rw [Circular.slots_eq_range' fits, RingBufferView.copiedSplit]
  split
  next more =>
    rw [gt_iff_lt, UInt32.lt_iff_toNat_lt] at more
    have rest : (stepSize - availableAtEnd).toNat = stepSize.toNat - availableAtEnd.toNat :=
      UInt32.toNat_sub_of_le _ _ (UInt32.le_iff_toNat_le.mpr (by omega))
    have second : (v.getRingPos (position + availableAtEnd)).toNat =
        position.toNat % v.size.toNat + availableAtEnd.toNat := by
      have small : availableAtEnd.toNat < v.size.toNat := by omega
      rw [v.toNat_getRingPos, v.toNat_add_mod_size, Nat.add_mod, Nat.mod_eq_of_lt small,
        Nat.mod_eq_of_lt (by omega)]
    have whole : stepSize.toNat = availableAtEnd.toNat +
        (stepSize.toNat - availableAtEnd.toNat) := by omega
    conv_rhs => rw [whole]
    dsimp only
    rw [place, second, rest, ← List.range'_append_1, Nat.add_assoc]
  next => rw [place]

/-- As many addresses as bytes. -/
theorem length_copiedSplit {position availableAtEnd stepSize : UInt32} :
    (v.copiedSplit position availableAtEnd stepSize).length = stepSize.toNat := by
  rw [RingBufferView.copiedSplit]
  split
  next more =>
    rw [gt_iff_lt, UInt32.lt_iff_toNat_lt] at more
    have rest : (stepSize - availableAtEnd).toNat = stepSize.toNat - availableAtEnd.toNat :=
      UInt32.toNat_sub_of_le _ _ (UInt32.le_iff_toNat_le.mpr (by omega))
    dsimp only
    rw [List.length_append, List.length_range', List.length_range', rest]
    omega
  next => exact List.length_range'

/-- The first part of a copy reads consecutive addresses. -/
theorem getElem?_copiedSplit {position availableAtEnd stepSize : UInt32} {offset : Nat}
    (early : offset < availableAtEnd.toNat) (inside : offset < stepSize.toNat) :
    (v.copiedSplit position availableAtEnd stepSize)[offset]? =
      some (v.buf + position.toNat % v.size.toNat + offset) := by
  have place := v.toNat_getRingPos position
  rw [RingBufferView.copiedSplit]
  split
  next =>
    rw [List.getElem?_append_left (by simpa using early), List.getElem?_range' early, place]
    simp
  next =>
    rw [List.getElem?_range' inside, place]
    simp

/-- What was stored at consecutive addresses is found there. -/
theorem store_range'_apply (data : Memory) {chunk : List UInt8} {count offset : Nat}
    (length : chunk.length = count) (inside : offset < chunk.length) :
    store data (List.range' 0 count) chunk offset = chunk[offset] := by
  have stored : (List.range' 0 count).map (store data (List.range' 0 count) chunk) = chunk :=
    Circular.map_store List.nodup_range' (by simpa using length)
  have entry := List.getElem_of_eq stored (i := offset) (by simpa [← length] using inside)
  rw [List.getElem_map, List.getElem_range'] at entry
  simpa using entry

/-- Without a view a copy gives the oldest bytes, whatever lies outside the buffer, exactly when
they do not go around its end. -/
theorem static_copy_exact_iff (contents : Contents r r.static memory bytes) (wantedBytes : UInt32)
    (enough : wantedBytes.toNat ≤ bytes.length) (res : Memory) :
    (∀ memory', (∀ address, r.buf ≤ address → address < r.buf + 2048 →
        memory' address = memory address) →
      r.copyContents none memory' wantedBytes res =
        (0, store res (List.range' 0 wantedBytes.toNat) (bytes.take wantedBytes.toNat))) ↔
      r.readPos.toNat % 2048 + wantedBytes.toNat ≤ 2048 := by
  have size : r.static.size.toNat = 2048 := (by decide : ringBufferSize.toNat = 2048)
  have room := contents.room
  have available := contents.toNat_availableRead
  have front := Nat.mod_lt r.readPos.toNat (by decide : 0 < 2048)
  have back := contents.writePos_mod
  have left : (ringBufferSize - r.static.getRingPos r.writePos).toNat =
      2048 - r.writePos.toNat % 2048 := by
    rw [← size]
    exact r.static.toNat_availableAtEnd r.writePos
  have copied : ∀ memory' : Memory, r.copyContents none memory' wantedBytes res =
      (0, store res (List.range' 0 wantedBytes.toNat)
        ((r.static.copiedSplit r.readPos (ringBufferSize - r.static.getRingPos r.writePos)
          wantedBytes).map memory')) := by
    intro memory'
    simp only [copyContents, availableRead, Option.getD_none, UInt32.lt_iff_toNat_lt, available]
    rw [if_neg (by omega)]
  rw [size] at room back
  constructor
  · intro right
    by_contra around
    -- the unread bytes go around the end, so the first part of the copy runs past the buffer
    obtain ⟨offset, reached⟩ : ∃ offset, r.readPos.toNat % 2048 + offset = 2048 :=
      ⟨2048 - r.readPos.toNat % 2048, by omega⟩
    have early : offset < (ringBufferSize - r.static.getRingPos r.writePos).toNat := by
      rw [left]
      omega
    have inside : offset < wantedBytes.toNat := by omega
    have unread : offset < bytes.length := by omega
    have read : (r.static.copiedSplit r.readPos _ wantedBytes)[offset]? = some _ :=
      getElem?_copiedSplit early inside
    have past : r.static.buf + r.readPos.toNat % r.static.size.toNat + offset = r.buf + 2048 := by
      rw [size, Nat.add_assoc, reached]
      rfl
    rw [past] at read
    have other := right (Function.update memory (r.buf + 2048) (bytes[offset] + 1)) (by
      intro address _ below
      exact Function.update_of_ne (by omega) _ _)
    rw [copied] at other
    have byte := congrFun (Prod.mk.inj other).2 offset
    rw [store_range'_apply res (by rw [List.length_map, length_copiedSplit])
      (by rwa [List.length_map, length_copiedSplit]),
      store_range'_apply res (by rw [List.length_take]; omega) (by rw [List.length_take]; omega),
      List.getElem_map, List.getElem_take, (List.getElem?_eq_some_iff.mp read).2,
      Function.update_self] at byte
    have value := congrArg UInt8.toNat byte
    have small := bytes[offset].toNat_lt
    rw [UInt8.toNat_add, UInt8.toNat_one] at value
    omega
  · intro fits memory' same
    have contents' : Contents r r.static memory' bytes := by
      refine ⟨contents.count, contents.room, contents.held.mono ?_⟩
      intro address member
      obtain ⟨step, _, rfl⟩ := Circular.mem_slots.mp member
      have bounds := Circular.slot_bounds r.static.buf r.static.size_pos
        (r.readPos.toNat + step)
      rw [size] at bounds ⊢
      exact same _ bounds.1 bounds.2
    have oldest := contents'.map_copied enough
    rw [RingBufferView.copied, copiedSplit_eq_slots (by rwa [size])] at oldest
    rw [copied, copiedSplit_eq_slots (by rwa [size]), oldest]

/-- Eight unread bytes around the end of the buffer. -/
theorem contents_around_end :
    Contents ⟨0, 2052, 2044, 0, 0, 0, 4096, 0⟩
      (static ⟨0, 2052, 2044, 0, 0, 0, 4096, 0⟩) (fun _ => 0) (List.replicate 8 0) :=
  ⟨by decide, by decide, rfl⟩

/-- They are not always copied as they are. -/
theorem static_copy_around_end :
    ¬ ∀ memory' : Memory, (∀ address, 4096 ≤ address → address < 4096 + 2048 →
        memory' address = 0) →
      (RingBuffer.mk 0 2052 2044 0 0 0 4096 0).copyContents none memory' 8 (fun _ => 0) =
        (0, store (fun _ => 0) (List.range' 0 8) ((List.replicate 8 0).take 8)) :=
  fun right => absurd
    ((static_copy_exact_iff contents_around_end 8 (by decide) fun _ => 0).mp right) (by decide)

end RingBuffer

end XrTransport.GfxStream
