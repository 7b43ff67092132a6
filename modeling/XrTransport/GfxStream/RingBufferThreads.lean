import XrTransport.Foundation.BoundedFifo
import XrTransport.Foundation.Simulation
import XrTransport.GfxStream.RingBuffer

/-!
# Two threads on one ring

The producer looks at `read_pos`, stores the bytes of its step in any order and then moves
`write_pos` on; the consumer looks at `write_pos`, loads its bytes in any order and then moves
`read_pos` on. Their accesses interleave freely. No byte is stored where one is unread, and what
the consumer has read is at all times the beginning of what the producer has written.
-/
namespace XrTransport.GfxStream

open Circular (Holds slot slots)

/-! ## Accesses -/

/-- Where the producer is in a step. -/
inductive Producer
  /-- Between two steps. -/
  | idle
  /-- It has found room for a step, and some bytes are still to be stored at their addresses. -/
  | storing (stepSize : UInt32) (chunk : List UInt8) (pending : List (Nat × UInt8))

/-- Where the consumer is in a step. -/
inductive Consumer
  /-- Between two steps. -/
  | idle
  /-- It has found enough bytes, and some are still to be loaded into its array from their
  addresses. -/
  | loading (stepSize : UInt32) (data : List UInt8) (pending : List (Nat × Nat))

/-- The two threads and what they share. -/
structure Threads where
  /-- The ring. -/
  ring : RingBuffer
  /-- The shared memory. -/
  memory : Memory
  /-- The thread that writes. -/
  producer : Producer
  /-- The thread that reads. -/
  consumer : Consumer

/-- One access of one thread. -/
inductive Access
  /-- The producer loads `read_pos` and looks whether there is room for a step. -/
  | startWrite (data : Memory) (stepSize : UInt32)
  /-- It stores one of the bytes. -/
  | storeByte (index : Nat)
  /-- It adds to `write_pos`. -/
  | publishWrite
  /-- The consumer loads `write_pos` and looks whether there are enough bytes. -/
  | startRead (data : Memory) (stepSize : UInt32)
  /-- It loads one of the bytes. -/
  | loadByte (index : Nat)
  /-- It adds to `read_pos`. -/
  | publishRead

namespace Threads

variable (v : RingBufferView)

/-- The accesses of `ring_buffer_view_write` and `ring_buffer_view_read`, step by step. -/
def step (t : Threads) : Access → Option Threads
  | .startWrite data stepSize =>
    match t.producer with
    | .idle =>
      if t.ring.viewCanWrite v stepSize then
        let chunk := bytesFrom data 0 stepSize.toNat
        some { t with
          producer := .storing stepSize chunk ((v.copied t.ring.writePos stepSize).zip chunk) }
      else some t
    | .storing .. => none
  | .storeByte index =>
    match t.producer with
    | .idle => none
    | .storing stepSize chunk pending =>
      pending[index]?.map fun entry =>
        { t with
          memory := Function.update t.memory entry.1 entry.2
          producer := .storing stepSize chunk (pending.eraseIdx index) }
  | .publishWrite =>
    match t.producer with
    | .storing stepSize _ [] =>
      some { t with ring := t.ring.advancedWrite stepSize, producer := .idle }
    | _ => none
  | .startRead data stepSize =>
    match t.consumer with
    | .idle =>
      if t.ring.viewCanRead v stepSize then
        some { t with
          consumer := .loading stepSize (bytesFrom data 0 stepSize.toNat)
            ((List.range stepSize.toNat).zip (v.copied t.ring.readPos stepSize)) }
      else some t
    | .loading .. => none
  | .loadByte index =>
    match t.consumer with
    | .idle => none
    | .loading stepSize data pending =>
      pending[index]?.map fun entry =>
        { t with
          consumer := .loading stepSize (data.set entry.1 (t.memory entry.2))
            (pending.eraseIdx index) }
  | .publishRead =>
    match t.consumer with
    | .loading stepSize _ [] =>
      some { t with ring := t.ring.advancedRead stepSize, consumer := .idle }
    | _ => none

/-- The threads on a ring as a system. -/
def system (r : RingBuffer) (memory : Memory) : System Threads Access where
  init := ⟨r.init, memory, .idle, .idle⟩
  step := step v

/-- What an access does to the queue of unread bytes: only the additions do something. -/
def event (t : Threads) : Access → List (BoundedFifo.Event UInt8)
  | .publishWrite =>
    match t.producer with
    | .storing _ chunk _ => [.pushed chunk]
    | .idle => []
  | .publishRead =>
    match t.consumer with
    | .loading _ data _ => [.popped data]
    | .idle => []
  | _ => []

/-- The addresses where the producer still has to store. -/
def storing (t : Threads) : List Nat :=
  match t.producer with
  | .idle => []
  | .storing _ _ pending => pending.map Prod.fst

/-- The addresses from which the consumer still has to load. -/
def loading (t : Threads) : List Nat :=
  match t.consumer with
  | .idle => []
  | .loading _ _ pending => pending.map Prod.snd

end Threads

/-! ## What holds at all times -/

/-- The bytes of the step that is being written are pending or stored, behind the unread bytes. -/
structure Storing (v : RingBufferView) (r : RingBuffer) (memory : Memory) (unread : Nat)
    (stepSize : UInt32) (chunk : List UInt8) (pending : List (Nat × UInt8)) : Prop where
  /-- The chunk has the size of the step. -/
  length : chunk.length = stepSize.toNat
  /-- There is still room for it. -/
  free : unread + stepSize.toNat < v.size.toNat
  /-- Every pending byte belongs to the chunk. -/
  owed : ∀ entry ∈ pending, ∃ offset, ∃ inside : offset < chunk.length,
    entry = (slot v.buf v.size.toNat (r.writePos.toNat + offset), chunk[offset])
  /-- Every byte of the chunk is pending or stored. -/
  done : ∀ offset (inside : offset < chunk.length),
    (slot v.buf v.size.toNat (r.writePos.toNat + offset), chunk[offset]) ∈ pending ∨
      memory (slot v.buf v.size.toNat (r.writePos.toNat + offset)) = chunk[offset]

/-- The bytes of the step that is being read are pending or loaded. -/
structure Loading (v : RingBufferView) (r : RingBuffer) (unread : List UInt8) (stepSize : UInt32)
    (data : List UInt8) (pending : List (Nat × Nat)) : Prop where
  /-- The array has the size of the step. -/
  length : data.length = stepSize.toNat
  /-- So many bytes are unread. -/
  enough : stepSize.toNat ≤ unread.length
  /-- Every pending byte is one of them. -/
  owed : ∀ entry ∈ pending, entry.1 < stepSize.toNat ∧
    entry.2 = slot v.buf v.size.toNat (r.readPos.toNat + entry.1)
  /-- Every byte of the step is pending or loaded. -/
  done : ∀ offset < stepSize.toNat,
    (offset, slot v.buf v.size.toNat (r.readPos.toNat + offset)) ∈ pending ∨
      data[offset]? = unread[offset]?

/-- The threads share the ring of a queue's unread bytes. -/
structure Shared (v : RingBufferView) (t : Threads) (unread : List UInt8) : Prop where
  /-- The unread bytes. -/
  contents : Contents t.ring v t.memory unread
  /-- The step of the producer. -/
  stores : ∀ stepSize chunk pending, t.producer = .storing stepSize chunk pending →
    Storing v t.ring t.memory unread.length stepSize chunk pending
  /-- The step of the consumer. -/
  loads : ∀ stepSize data pending, t.consumer = .loading stepSize data pending →
    Loading v t.ring unread stepSize data pending

variable {v : RingBufferView} {t t' : Threads} {unread : List UInt8}

/-- The places behind the unread bytes, seen from `write_pos`, hold none of them. -/
theorem Contents.slot_writePos_ne {r : RingBuffer} {memory : Memory}
    (contents : Contents r v memory unread) {offset offset' : Nat} (read : offset' < unread.length)
    (free : unread.length + offset < v.size.toNat) :
    slot v.buf v.size.toNat (r.writePos.toNat + offset) ≠
      slot v.buf v.size.toNat (r.readPos.toNat + offset') := by
  have behind : slot v.buf v.size.toNat (r.writePos.toNat + offset) =
      slot v.buf v.size.toNat (r.readPos.toNat + unread.length + offset) := by
    apply Circular.slot_congr
    rw [Nat.add_mod, contents.writePos_mod, ← Nat.add_mod]
  intro same
  rw [behind] at same
  have together := Circular.slot_injective (by omega) (by omega) same.symm
  omega

/-- The producer finds room. -/
theorem Shared.startWrite (shared : Shared v t unread) {data : Memory} {stepSize : UInt32}
    (room : t.ring.viewCanWrite v stepSize) :
    Shared v { t with
      producer := .storing stepSize (bytesFrom data 0 stepSize.toNat)
        ((v.copied t.ring.writePos stepSize).zip (bytesFrom data 0 stepSize.toNat)) } unread := by
  have free := shared.contents.viewCanWrite_iff.mp room
  have length : (bytesFrom data 0 stepSize.toNat).length = stepSize.toNat := by
    simp [bytesFrom]
  have entries : ∀ offset (inside : offset < (bytesFrom data 0 stepSize.toNat).length),
      ((v.copied t.ring.writePos stepSize).zip (bytesFrom data 0 stepSize.toNat))[offset]? =
        some (slot v.buf v.size.toNat (t.ring.writePos.toNat + offset),
          (bytesFrom data 0 stepSize.toNat)[offset]) := by
    intro offset inside
    have addressed : offset < (v.copied t.ring.writePos stepSize).length := by
      rw [v.copied_eq_slots (by omega), Circular.length_slots]
      omega
    rw [List.getElem?_eq_getElem (by rw [List.length_zip]; omega), List.getElem_zip]
    simp only [v.copied_eq_slots (by omega : stepSize.toNat ≤ v.size.toNat),
      Circular.getElem_slots]
  refine ⟨shared.contents, ?_, shared.loads⟩
  intro size chunk pending stored
  cases stored
  refine ⟨length, free, ?_, ?_⟩
  · intro entry member
    obtain ⟨offset, inside, rfl⟩ := List.getElem_of_mem member
    have inside' : offset < (bytesFrom data 0 stepSize.toNat).length := by
      rw [List.length_zip] at inside
      omega
    have found := entries offset inside'
    rw [List.getElem?_eq_getElem inside] at found
    exact ⟨offset, inside', Option.some.inj found⟩
  · intro offset inside
    exact .inl (List.mem_of_getElem? (entries offset inside))

/-- The producer stores a byte. -/
theorem Shared.storeByte (shared : Shared v t unread) {stepSize : UInt32} {chunk : List UInt8}
    {pending : List (Nat × UInt8)} {index : Nat} {entry : Nat × UInt8}
    (stored : t.producer = .storing stepSize chunk pending) (owed : pending[index]? = some entry) :
    Shared v { t with
      memory := Function.update t.memory entry.1 entry.2
      producer := .storing stepSize chunk (pending.eraseIdx index) } unread := by
  have before := shared.stores stepSize chunk pending stored
  have contents := shared.contents
  have size := before.length
  have free := before.free
  obtain ⟨offset, inside, rfl⟩ := before.owed entry (List.mem_of_getElem? owed)
  refine ⟨⟨contents.count, contents.room, ?_⟩, ?_, shared.loads⟩
  · rw [Circular.holds_iff]
    intro place read
    have elsewhere := contents.slot_writePos_ne read
      (by omega : unread.length + offset < v.size.toNat)
    exact (Function.update_of_ne elsewhere.symm _ _).trans
      (Circular.holds_iff.mp contents.held place read)
  · intro size' chunk' pending' now
    cases now
    refine ⟨size, free, ?_, ?_⟩
    · intro entry member
      exact before.owed entry (List.mem_of_mem_eraseIdx member)
    · intro place inside'
      by_cases here : slot v.buf v.size.toNat (t.ring.writePos.toNat + place) =
          slot v.buf v.size.toNat (t.ring.writePos.toNat + offset)
      · right
        have same : place = offset := by
          rcases Nat.le_total place offset with order | order
          · have together := Circular.slot_injective (by omega) (by omega) here
            omega
          · have together := Circular.slot_injective (by omega) (by omega) here.symm
            omega
        subst same
        exact Function.update_self _ _ _
      · rcases before.done place inside' with pends | done
        · left
          obtain ⟨index', there, equal⟩ := List.getElem_of_mem pends
          have apart : index' ≠ index := by
            rintro rfl
            rw [List.getElem?_eq_getElem there, equal] at owed
            exact here (Prod.mk.inj (Option.some.inj owed)).1
          rw [← equal]
          exact List.mem_eraseIdx_iff_getElem.mpr ⟨index', there, apart, rfl⟩
        · right
          rw [← done]
          exact Function.update_of_ne here _ _

/-- The producer moves on: its step is the newest of the unread bytes. -/
theorem Shared.publishWrite (shared : Shared v t unread) {stepSize : UInt32} {chunk : List UInt8}
    (stored : t.producer = .storing stepSize chunk []) :
    Shared v { t with ring := t.ring.advancedWrite stepSize, producer := .idle }
      (unread ++ chunk) := by
  have complete := shared.stores stepSize chunk [] stored
  have written : Holds t.memory v.buf v.size.toNat t.ring.writePos.toNat chunk := by
    rw [Circular.holds_iff]
    intro offset inside
    exact (complete.done offset inside).resolve_left List.not_mem_nil
  refine ⟨shared.contents.published complete.length complete.free written, ?_, ?_⟩
  · intro _ _ _ now
    cases now
  · intro size data pending now
    have before := shared.loads size data pending now
    refine ⟨before.length, ?_, before.owed, ?_⟩
    · have enough := before.enough
      rw [List.length_append]
      omega
    · intro offset inside
      have enough := before.enough
      rw [List.getElem?_append_left (by omega)]
      exact before.done offset inside

/-- The consumer finds enough bytes. -/
theorem Shared.startRead (shared : Shared v t unread) {data : Memory} {stepSize : UInt32}
    (there : t.ring.viewCanRead v stepSize) :
    Shared v { t with
      consumer := .loading stepSize (bytesFrom data 0 stepSize.toNat)
        ((List.range stepSize.toNat).zip (v.copied t.ring.readPos stepSize)) } unread := by
  have enough := shared.contents.viewCanRead_iff.mp there
  have room := shared.contents.room
  have entries : ∀ offset < stepSize.toNat,
      ((List.range stepSize.toNat).zip (v.copied t.ring.readPos stepSize))[offset]? =
        some (offset, slot v.buf v.size.toNat (t.ring.readPos.toNat + offset)) := by
    intro offset inside
    have addressed : (v.copied t.ring.readPos stepSize).length = stepSize.toNat := by
      rw [v.copied_eq_slots (by omega), Circular.length_slots]
    rw [List.getElem?_eq_getElem (by rw [List.length_zip, List.length_range, addressed]; omega),
      List.getElem_zip]
    simp only [List.getElem_range, v.copied_eq_slots (by omega : stepSize.toNat ≤ v.size.toNat),
      Circular.getElem_slots]
  refine ⟨shared.contents, shared.stores, ?_⟩
  intro size data' pending now
  cases now
  refine ⟨by simp [bytesFrom], enough, ?_, ?_⟩
  · intro entry member
    obtain ⟨offset, inside, rfl⟩ := List.getElem_of_mem member
    have inside' : offset < stepSize.toNat := by
      rw [List.length_zip, List.length_range] at inside
      omega
    have found := entries offset inside'
    rw [List.getElem?_eq_getElem inside] at found
    rw [Option.some.inj found]
    exact ⟨inside', rfl⟩
  · intro offset inside
    exact .inl (List.mem_of_getElem? (entries offset inside))

/-- The consumer loads a byte. -/
theorem Shared.loadByte (shared : Shared v t unread) {stepSize : UInt32} {data : List UInt8}
    {pending : List (Nat × Nat)} {index : Nat} {entry : Nat × Nat}
    (loaded : t.consumer = .loading stepSize data pending) (owed : pending[index]? = some entry) :
    Shared v { t with
      consumer := .loading stepSize (data.set entry.1 (t.memory entry.2))
        (pending.eraseIdx index) } unread := by
  have before := shared.loads stepSize data pending loaded
  have enough := before.enough
  have length := before.length
  obtain ⟨inside, address⟩ := before.owed entry (List.mem_of_getElem? owed)
  have byte : t.memory entry.2 = unread[entry.1] := by
    rw [address]
    exact Circular.holds_iff.mp shared.contents.held entry.1 (by omega)
  refine ⟨shared.contents, shared.stores, ?_⟩
  intro size' data' pending' now
  cases now
  refine ⟨by rw [List.length_set, length], enough, ?_, ?_⟩
  · intro entry' member
    exact before.owed entry' (List.mem_of_mem_eraseIdx member)
  · intro offset inside'
    by_cases here : offset = entry.1
    · right
      subst here
      rw [List.getElem?_set_self (by omega), byte, List.getElem?_eq_getElem (by omega)]
    · rcases before.done offset inside' with pends | done
      · left
        obtain ⟨index', there, equal⟩ := List.getElem_of_mem pends
        have apart : index' ≠ index := by
          rintro rfl
          rw [List.getElem?_eq_getElem there, equal] at owed
          exact here (by rw [← Option.some.inj owed])
        rw [← equal]
        exact List.mem_eraseIdx_iff_getElem.mpr ⟨index', there, apart, rfl⟩
      · right
        rw [List.getElem?_set_ne (by omega)]
        exact done

/-- The consumer moves on: it has read the oldest bytes. -/
theorem Shared.publishRead (shared : Shared v t unread) {stepSize : UInt32} {data : List UInt8}
    (loaded : t.consumer = .loading stepSize data []) :
    unread = data ++ unread.drop stepSize.toNat ∧
    Shared v { t with ring := t.ring.advancedRead stepSize, consumer := .idle }
      (unread.drop stepSize.toNat) := by
  have complete := shared.loads stepSize data [] loaded
  have enough := complete.enough
  have oldest : data = unread.take stepSize.toNat := by
    apply List.ext_getElem?
    intro offset
    rcases Nat.lt_or_ge offset stepSize.toNat with inside | outside
    · rw [List.getElem?_take_of_lt inside]
      exact (complete.done offset inside).resolve_left List.not_mem_nil
    · rw [List.getElem?_eq_none (by rw [complete.length]; exact outside),
        List.getElem?_eq_none (by rw [List.length_take]; omega)]
  refine ⟨by rw [oldest, List.take_append_drop], shared.contents.advancedRead enough, ?_, ?_⟩
  · intro size chunk pending now
    have before := shared.stores size chunk pending now
    have free := before.free
    exact ⟨before.length, by rw [List.length_drop]; omega, before.owed, before.done⟩
  · intro _ _ _ now
    cases now

/-- The addresses of unread bytes are apart from those where the producer still has to store, and
the consumer loads from nowhere else. -/
theorem Shared.apart (shared : Shared v t unread) :
    (∀ address ∈ t.storing,
      address ∉ slots v.buf v.size.toNat t.ring.readPos.toNat unread.length) ∧
    ∀ address ∈ t.loading,
      address ∈ slots v.buf v.size.toNat t.ring.readPos.toNat unread.length := by
  constructor
  · intro address member
    cases state : t.producer with
    | idle =>
      rw [Threads.storing, state] at member
      exact absurd member List.not_mem_nil
    | storing stepSize chunk pending =>
      rw [Threads.storing, state] at member
      have before := shared.stores stepSize chunk pending state
      have length := before.length
      have free := before.free
      obtain ⟨entry, pends, rfl⟩ := List.mem_map.mp member
      obtain ⟨offset, inside, rfl⟩ := before.owed entry pends
      rw [Circular.mem_slots]
      rintro ⟨offset', read, same⟩
      exact shared.contents.slot_writePos_ne read (by omega) same
  · intro address member
    cases state : t.consumer with
    | idle =>
      rw [Threads.loading, state] at member
      exact absurd member List.not_mem_nil
    | loading stepSize data pending =>
      rw [Threads.loading, state] at member
      have before := shared.loads stepSize data pending state
      have enough := before.enough
      obtain ⟨entry, pends, rfl⟩ := List.mem_map.mp member
      obtain ⟨inside, address⟩ := before.owed entry pends
      exact Circular.mem_slots.mpr ⟨entry.1, by omega, address⟩

/-- Where the producer still has to store lies in the block. -/
theorem Shared.storing_bounds (shared : Shared v t unread) {address : Nat}
    (member : address ∈ t.storing) : v.buf ≤ address ∧ address < v.buf + v.size.toNat := by
  cases state : t.producer with
  | idle =>
    rw [Threads.storing, state] at member
    exact absurd member List.not_mem_nil
  | storing stepSize chunk pending =>
    rw [Threads.storing, state] at member
    obtain ⟨entry, pends, rfl⟩ := List.mem_map.mp member
    obtain ⟨offset, _, rfl⟩ := (shared.stores stepSize chunk pending state).owed entry pends
    exact Circular.slot_bounds v.buf v.size_pos _

/-- An access is matched by what it does to the queue of the unread bytes, and changes memory only
where the producer had to store. -/
theorem Shared.step {q : BoundedFifo UInt8 (v.size.toNat - 1)} (shared : Shared v t q.items)
    {access : Access} (taken : t.step v access = some t') :
    (∃ q', (BoundedFifo.system UInt8 (v.size.toNat - 1)).run q (t.event access) = some q' ∧
      Shared v t' q'.items) ∧
    ∀ address ∉ t.storing, t'.memory address = t.memory address := by
  cases access with
  | startWrite data stepSize =>
    simp only [Threads.step] at taken
    split at taken
    next state =>
      split at taken
      next room =>
        cases taken
        exact ⟨⟨q, rfl, shared.startWrite room⟩, fun _ _ => rfl⟩
      next =>
        cases taken
        exact ⟨⟨q, rfl, shared⟩, fun _ _ => rfl⟩
    next => cases taken
  | storeByte index =>
    simp only [Threads.step] at taken
    split at taken
    next => cases taken
    next stepSize chunk pending state =>
      obtain ⟨entry, owed, rfl⟩ := Option.map_eq_some_iff.mp taken
      refine ⟨⟨q, rfl, shared.storeByte state owed⟩, ?_⟩
      intro address elsewhere
      apply Function.update_of_ne
      rintro rfl
      apply elsewhere
      rw [Threads.storing, state]
      exact List.mem_map_of_mem (List.mem_of_getElem? owed)
  | publishWrite =>
    simp only [Threads.step] at taken
    split at taken
    next stepSize chunk state =>
      cases taken
      have after := shared.publishWrite state
      have room : (q.items ++ chunk).length ≤ v.size.toNat - 1 := by
        have room := after.contents.room
        omega
      have pushed : q.push chunk = some ⟨q.items ++ chunk, room⟩ := by
        rw [BoundedFifo.push_eq_some]
        exact ⟨by rwa [List.length_append] at room, rfl⟩
      refine ⟨⟨⟨q.items ++ chunk, room⟩, ?_, after⟩, fun _ _ => rfl⟩
      rw [Threads.event, state]
      exact congrArg (fun found => Option.bind found some) pushed
    next => cases taken
  | startRead data stepSize =>
    simp only [Threads.step] at taken
    split at taken
    next state =>
      split at taken
      next there =>
        cases taken
        exact ⟨⟨q, rfl, shared.startRead there⟩, fun _ _ => rfl⟩
      next =>
        cases taken
        exact ⟨⟨q, rfl, shared⟩, fun _ _ => rfl⟩
    next => cases taken
  | loadByte index =>
    simp only [Threads.step] at taken
    split at taken
    next => cases taken
    next stepSize data pending state =>
      obtain ⟨entry, owed, rfl⟩ := Option.map_eq_some_iff.mp taken
      exact ⟨⟨q, rfl, shared.loadByte state owed⟩, fun _ _ => rfl⟩
  | publishRead =>
    simp only [Threads.step] at taken
    split at taken
    next stepSize data state =>
      cases taken
      obtain ⟨whole, after⟩ := shared.publishRead state
      have popped : (BoundedFifo.system UInt8 (v.size.toNat - 1)).step q (.popped data) =
          some (q.drop stepSize.toNat) := by
        rw [BoundedFifo.step_popped]
        exact whole
      refine ⟨⟨q.drop stepSize.toNat, ?_, after⟩, fun _ _ => rfl⟩
      rw [Threads.event, state]
      exact congrArg (fun found => Option.bind found some) popped
    next => cases taken

namespace Threads

/-- Whatever the order of the accesses of the two threads: what was written is what was read
followed by what is unread, the unread bytes lie in the ring, no byte is about to be stored where
one is unread or about to be loaded, and memory outside the block is as it was. -/
theorem threads_keep_order (v : RingBufferView) (r : RingBuffer) (memory : Memory)
    (accesses : List Access) {t : Threads}
    (ran : (system v r memory).run (system v r memory).init accesses = some t) :
    let events := (system v r memory).trace event (system v r memory).init accesses
    ∃ unread, BoundedFifo.Event.allPushed events = BoundedFifo.Event.allPopped events ++ unread ∧
      Contents t.ring v t.memory unread ∧
      (∀ address ∈ t.storing,
        address ∉ slots v.buf v.size.toNat t.ring.readPos.toNat unread.length ∧
          address ∉ t.loading) ∧
      ∀ address, address < v.buf ∨ v.buf + v.size.toNat ≤ address →
        t.memory address = memory address := by
  have start : Shared v (system v r memory).init [] := by
    refine ⟨Contents.init r v memory, ?_, ?_⟩
    · intro _ _ _ now
      cases now
    · intro _ _ _ now
      cases now
  obtain ⟨q, matched, shared, outside⟩ := System.run_simulates
    (BoundedFifo.system UInt8 (v.size.toNat - 1)) event
    (fun t q => Shared v t q.items ∧
      ∀ address, address < v.buf ∨ v.buf + v.size.toNat ≤ address →
        t.memory address = memory address)
    (by
      rintro s access s' q ⟨shared, outside⟩ taken
      obtain ⟨⟨q', matched, shared'⟩, kept⟩ := shared.step taken
      refine ⟨q', matched, shared', ?_⟩
      intro address apart
      rw [kept address, outside address apart]
      intro member
      have bounds := shared.storing_bounds member
      omega)
    (t := .empty) ⟨start, fun _ _ => rfl⟩ ran
  have conserved := BoundedFifo.run_conserves matched
  obtain ⟨unread, loads⟩ := shared.apart
  refine ⟨q.items, conserved, shared.contents, ?_, outside⟩
  intro address member
  exact ⟨unread address member, fun loaded => unread address member (loads address loaded)⟩

/-- A byte that is written while the buffer is being looked at is read afterwards. -/
theorem byte_crosses :
    ∃ t, (system (RingBuffer.static ⟨0, 0, 0, 0, 0, 0, 4096, 0⟩)
        ⟨0, 0, 0, 0, 0, 0, 4096, 0⟩ fun _ => 0).run
        (system (RingBuffer.static ⟨0, 0, 0, 0, 0, 0, 4096, 0⟩)
          ⟨0, 0, 0, 0, 0, 0, 4096, 0⟩ fun _ => 0).init
        [.startWrite (fun _ => 7) 1, .startRead (fun _ => 0) 1, .storeByte 0, .publishWrite,
          .startRead (fun _ => 0) 1, .loadByte 0] = some t ∧
      ∀ address ∈ t.storing, address ∉ t.loading := by
  refine ⟨_, rfl, ?_⟩
  obtain ⟨_, _, _, apart, _⟩ := threads_keep_order (RingBuffer.static ⟨0, 0, 0, 0, 0, 0, 4096, 0⟩)
    ⟨0, 0, 0, 0, 0, 0, 4096, 0⟩ (fun _ => 0)
    [.startWrite (fun _ => 7) 1, .startRead (fun _ => 0) 1, .storeByte 0, .publishWrite,
      .startRead (fun _ => 0) 1, .loadByte 0] rfl
  exact fun address member => (apart address member).2

end Threads

end XrTransport.GfxStream
