import XrTransport.Foundation.Circular

/-!
# The ring buffer between guest and host

`ring_buffer.cpp`. One side only writes and one side only reads. Both positions are 32-bit counters
that wrap; masked, they are places in a block of memory whose size is a power of two. One byte of
the block stays free, so that a full ring differs from an empty one. The block is the ring's own
or, with a view, one that is shared by the two sides.
-/
namespace XrTransport.GfxStream

open Circular (Holds slot slots store)

/-- What lies at every address. -/
abbrev Memory := Nat → UInt8

/-- `EAGAIN`. -/
def eagain : Int := 11

/-- `struct ring_buffer`. -/
structure RingBuffer where
  /-- `host_version`. -/
  hostVersion : UInt32
  /-- `write_pos`. -/
  writePos : UInt32
  /-- `read_pos`. -/
  readPos : UInt32
  /-- `read_live_count`. -/
  readLiveCount : UInt32
  /-- `read_yield_count`. -/
  readYieldCount : UInt32
  /-- `read_sleep_us_count`. -/
  readSleepUsCount : UInt32
  /-- Where `buf` is. -/
  buf : Nat
  /-- `state`. -/
  state : UInt32
  deriving DecidableEq

/-- `struct ring_buffer_view`. Its size is a power of two that fits 32 bits. -/
structure RingBufferView where
  /-- `buf`. -/
  buf : Nat
  /-- `size`. -/
  size : UInt32
  /-- `mask`. -/
  mask : UInt32
  /-- The mask has the bits below the size. -/
  shaped : ∃ shift < 32, size.toNat = 2 ^ shift ∧ mask.toNat = 2 ^ shift - 1

/-- `RING_BUFFER_SIZE`. -/
def ringBufferSize : UInt32 := (1 : UInt32) <<< 11

/-- `RING_BUFFER_MASK`. -/
def ringBufferMask : UInt32 := ringBufferSize - 1

/-- The size of the static buffer is a power of two. -/
theorem ringBufferSize_shaped :
    ∃ shift < 32, ringBufferSize.toNat = 2 ^ shift ∧ ringBufferMask.toNat = 2 ^ shift - 1 :=
  ⟨11, by decide, by decide, by decide⟩

namespace RingBuffer

/-- `ring_buffer_init`. -/
def init (r : RingBuffer) : RingBuffer :=
  { r with hostVersion := 1, writePos := 0, readPos := 0, readLiveCount := 0, readYieldCount := 0,
           readSleepUsCount := 0, state := 0 }

/-- The ring's own buffer, which the functions without a view use. -/
def static (r : RingBuffer) : RingBufferView where
  buf := r.buf
  size := ringBufferSize
  mask := ringBufferMask
  shaped := ringBufferSize_shaped

end RingBuffer

/-! ## Sizes -/

/-- The loop of `ring_buffer_calc_shift`, with so many shifts left that are defined. -/
def calcShiftFrom (size : UInt32) : Nat → Option UInt32
  | 0 => none
  | room + 1 =>
    let shift := UInt32.ofNat (31 - room)
    if (1 : UInt32) <<< shift < size then calcShiftFrom size room else some shift

/-- `ring_buffer_calc_shift`. A shift by 32 is undefined. -/
def calcShift (size : UInt32) : Option UInt32 :=
  (calcShiftFrom size 32).map fun shift =>
    if (1 : UInt32) <<< shift > size then shift - 1 else shift

/-- A shifted one is a power of two. -/
theorem toNat_one_shiftLeft {shift : UInt32} (small : shift < 32) :
    ((1 : UInt32) <<< shift).toNat = 2 ^ shift.toNat := by
  have bound : shift.toNat < 32 := small
  have fits : 2 ^ shift.toNat < 2 ^ 32 := Nat.pow_lt_pow_right (by decide) bound
  rw [UInt32.toNat_shiftLeft, Nat.mod_eq_of_lt bound, UInt32.toNat_one, Nat.shiftLeft_eq,
    Nat.one_mul, Nat.mod_eq_of_lt fits]

/-- The view of a block of `1 << shift` bytes. -/
def RingBufferView.ofShift (buf : Nat) (shift : UInt32) (small : shift < 32) : RingBufferView where
  buf := buf
  size := (1 : UInt32) <<< shift
  mask := ((1 : UInt32) <<< shift) - 1
  shaped := by
    have power := toNat_one_shiftLeft small
    have positive := Nat.two_pow_pos shift.toNat
    have one : (1 : UInt32).toNat = 1 := rfl
    have order : (1 : UInt32) ≤ (1 : UInt32) <<< shift := by
      rw [UInt32.le_iff_toNat_le]
      omega
    refine ⟨shift.toNat, small, power, ?_⟩
    rw [UInt32.toNat_sub_of_le _ _ order, power, one]

/-- `ring_buffer_init_view_only`. -/
def initViewOnly (buf : Nat) (size : UInt32) : Option RingBufferView :=
  (calcShift size).bind fun shift =>
    if small : shift < 32 then some (.ofShift buf shift small) else none

/-- `ring_buffer_view_init`. -/
def viewInit (r : RingBuffer) (buf : Nat) (size : UInt32) : Option (RingBuffer × RingBufferView) :=
  (initViewOnly buf size).map fun v => (r.init, v)

/-- The loop stops at the first power of two that is not below the size. -/
theorem calcShiftFrom_spec (size : UInt32) {room : Nat} (bound : room ≤ 32)
    (below : ∀ shift < 32 - room, 2 ^ shift < size.toNat) :
    match calcShiftFrom size room with
    | some shift => shift < 32 ∧ size.toNat ≤ 2 ^ shift.toNat ∧
        ∀ smaller < shift.toNat, 2 ^ smaller < size.toNat
    | none => 2 ^ 31 < size.toNat := by
  induction room with
  | zero => exact below 31 (by decide)
  | succ room ih =>
    have value : (UInt32.ofNat (31 - room)).toNat = 31 - room := by
      rw [UInt32.toNat_ofNat']
      exact Nat.mod_eq_of_lt (by omega)
    have small : UInt32.ofNat (31 - room) < 32 := by
      rw [UInt32.lt_iff_toNat_lt, value]
      exact (by omega : 31 - room < 32)
    have power := toNat_one_shiftLeft small
    rw [value] at power
    rw [calcShiftFrom]
    by_cases less : (1 : UInt32) <<< UInt32.ofNat (31 - room) < size
    · rw [if_pos less]
      rw [UInt32.lt_iff_toNat_lt, power] at less
      apply ih (by omega)
      intro shift reached
      rcases Nat.lt_or_ge shift (31 - room) with earlier | last
      · exact below shift (by omega)
      · rwa [show shift = 31 - room by omega]
    · rw [if_neg less]
      rw [UInt32.lt_iff_toNat_lt, power] at less
      refine ⟨small, by rw [value]; omega, ?_⟩
      intro smaller before
      exact below smaller (by omega)

/-- Two powers of two within a factor of two of one number are equal. -/
theorem pow_unique {first second number : Nat} (low : 2 ^ first ≤ number)
    (high : number < 2 * 2 ^ first) (low' : 2 ^ second ≤ number)
    (high' : number < 2 * 2 ^ second) : first = second := by
  rw [← Nat.pow_succ'] at high high'
  have below := (Nat.pow_lt_pow_iff_right (by decide : 1 < 2)).mp (Nat.lt_of_le_of_lt low high')
  have above := (Nat.pow_lt_pow_iff_right (by decide : 1 < 2)).mp (Nat.lt_of_le_of_lt low' high)
  omega

/-- Where the shift is defined it gives the greatest power of two that is not above the size. -/
theorem calcShift_spec (size : UInt32) :
    match calcShift size with
    | some shift => shift < 32 → 0 < size.toNat ∧ size.toNat ≤ 2 ^ 31 ∧
        2 ^ shift.toNat ≤ size.toNat ∧ size.toNat < 2 * 2 ^ shift.toNat
    | none => 2 ^ 31 < size.toNat := by
  have loop := calcShiftFrom_spec size (Nat.le_refl 32) (by intro shift early; omega)
  rw [calcShift]
  cases found : calcShiftFrom size 32 with
  | none =>
    rw [found] at loop
    exact loop
  | some first =>
    rw [found] at loop
    obtain ⟨small, reached, below⟩ := loop
    have bound : first.toNat < 32 := small
    have power := toNat_one_shiftLeft small
    have largest : 2 ^ first.toNat ≤ 2 ^ 31 := Nat.pow_le_pow_right (by decide) (by omega)
    rw [Option.map_some]
    by_cases above : (1 : UInt32) <<< first > size
    · rw [if_pos above]
      rw [gt_iff_lt, UInt32.lt_iff_toNat_lt, power] at above
      intro inside
      have before : (first - 1).toNat = first.toNat - 1 ∧ 0 < first.toNat := by
        have inside' : (first - 1).toNat < 32 := inside
        rw [UInt32.toNat_sub, UInt32.toNat_one] at inside' ⊢
        omega
      obtain ⟨before, positive⟩ := before
      have last := below (first.toNat - 1) (by omega)
      have double : 2 ^ first.toNat = 2 * 2 ^ (first.toNat - 1) := by
        rw [← Nat.pow_succ', Nat.succ_eq_add_one, Nat.sub_add_cancel positive]
      rw [before]
      omega
    · rw [if_neg above]
      rw [gt_iff_lt, UInt32.lt_iff_toNat_lt, power] at above
      have positive := Nat.two_pow_pos first.toNat
      intro _
      omega

/-- Sizes up to 2^31 have a shift. -/
theorem calcShift_defined {size : UInt32} (positive : 0 < size.toNat)
    (bound : size.toNat ≤ 2 ^ 31) : ∃ shift < 32, calcShift size = some shift := by
  have loop := calcShiftFrom_spec size (Nat.le_refl 32) (by intro shift early; omega)
  cases found : calcShiftFrom size 32 with
  | none =>
    rw [found] at loop
    omega
  | some first =>
    rw [found] at loop
    obtain ⟨small, _, _⟩ := loop
    have limit : first.toNat < 32 := small
    have power := toNat_one_shiftLeft small
    rw [calcShift, found, Option.map_some]
    by_cases above : (1 : UInt32) <<< first > size
    · rw [if_pos above]
      refine ⟨first - 1, ?_, rfl⟩
      rw [gt_iff_lt, UInt32.lt_iff_toNat_lt, power] at above
      have after : 0 < first.toNat := by
        apply Nat.pos_of_ne_zero
        intro zero
        rw [zero] at above
        omega
      rw [UInt32.lt_iff_toNat_lt, UInt32.toNat_sub, UInt32.toNat_one]
      have constant : (32 : UInt32).toNat = 32 := rfl
      omega
    · rw [if_neg above]
      exact ⟨first, small, rfl⟩

/-- Views of one size have one mask. -/
theorem RingBufferView.eq_of_size {v v' : RingBufferView} (buf : v.buf = v'.buf)
    (size : v.size.toNat = v'.size.toNat) : v = v' := by
  obtain ⟨shift, _, power, mask⟩ := v.shaped
  obtain ⟨shift', _, power', mask'⟩ := v'.shaped
  have masks : v.mask = v'.mask := by
    apply UInt32.toNat_inj.mp
    rw [mask, mask', ← power, ← power', size]
  cases v
  cases v'
  cases buf
  cases UInt32.toNat_inj.mp size
  cases masks
  rfl

namespace RingBufferView

variable (v : RingBufferView)

/-- `ring_buffer_view_get_ring_pos`. -/
def getRingPos (index : UInt32) : UInt32 := index &&& v.mask

/-- The addresses that the one or two `memcpy` of a step use, in their order: the second is for the
bytes beyond those that are available before the end of the block. -/
def copiedSplit (position availableAtEnd stepSize : UInt32) : List Nat :=
  if stepSize > availableAtEnd then
    let remaining := stepSize - availableAtEnd
    List.range' (v.buf + (v.getRingPos position).toNat) availableAtEnd.toNat ++
      List.range' (v.buf + (v.getRingPos (position + availableAtEnd)).toNat) remaining.toNat
  else
    List.range' (v.buf + (v.getRingPos position).toNat) stepSize.toNat

/-- The addresses that a step at a position uses. -/
def copied (position stepSize : UInt32) : List Nat :=
  v.copiedSplit position (v.size - v.getRingPos position) stepSize

/-- A view has room for at least one byte. -/
theorem size_pos : 0 < v.size.toNat := by
  obtain ⟨shift, _, size, _⟩ := v.shaped
  rw [size]
  exact Nat.two_pow_pos shift

/-- The counters go around the block a whole number of times. -/
theorem size_dvd : v.size.toNat ∣ 2 ^ 32 := by
  obtain ⟨shift, small, size, _⟩ := v.shaped
  rw [size]
  exact Nat.pow_dvd_pow 2 (Nat.le_of_lt small)

/-- Masking is the remainder. -/
theorem toNat_getRingPos (index : UInt32) :
    (v.getRingPos index).toNat = index.toNat % v.size.toNat := by
  obtain ⟨shift, _, size, mask⟩ := v.shaped
  rw [getRingPos, UInt32.toNat_and, mask, size, Nat.and_two_pow_sub_one_eq_mod]

/-- A counter that is moved on and wraps is still at the right place. -/
theorem toNat_add_mod_size (position step : UInt32) :
    (position + step).toNat % v.size.toNat = (position.toNat + step.toNat) % v.size.toNat := by
  rw [UInt32.toNat_add, Nat.mod_mod_of_dvd _ v.size_dvd]

/-- What is left behind a place up to the end of the block. -/
theorem toNat_availableAtEnd (position : UInt32) :
    (v.size - v.getRingPos position).toNat = v.size.toNat - position.toNat % v.size.toNat := by
  have inside := Nat.mod_lt position.toNat v.size_pos
  have place := v.toNat_getRingPos position
  rw [UInt32.toNat_sub_of_le _ _ (UInt32.le_iff_toNat_le.mpr (by omega)), place]

/-- The bytes of a step lie at the addresses of consecutive positions. -/
theorem copied_eq_slots {position stepSize : UInt32} (fits : stepSize.toNat ≤ v.size.toNat) :
    v.copied position stepSize =
      slots v.buf v.size.toNat position.toNat stepSize.toNat := by
  have inside := Nat.mod_lt position.toNat v.size_pos
  have left := v.toNat_availableAtEnd position
  simp only [copied, copiedSplit, gt_iff_lt, UInt32.lt_iff_toNat_lt, left]
  split
  next wraps =>
    have rest : (stepSize - (v.size - v.getRingPos position)).toNat =
        stepSize.toNat - (v.size.toNat - position.toNat % v.size.toNat) := by
      rw [UInt32.toNat_sub_of_le _ _ (UInt32.le_iff_toNat_le.mpr (by omega)), left]
    have around : (position.toNat + (v.size.toNat - position.toNat % v.size.toNat)) %
        v.size.toNat = 0 := by
      have turn : position.toNat % v.size.toNat +
          (v.size.toNat - position.toNat % v.size.toNat) = v.size.toNat := by omega
      rw [Nat.add_mod_eq_add_mod_right _ (Nat.mod_mod position.toNat v.size.toNat).symm, turn,
        Nat.mod_self]
    have whole : stepSize.toNat = (v.size.toNat - position.toNat % v.size.toNat) +
        (stepSize.toNat - (v.size.toNat - position.toNat % v.size.toNat)) := by omega
    rw [rest, v.toNat_getRingPos, v.toNat_getRingPos, v.toNat_add_mod_size, left, around]
    conv_rhs => rw [whole]
    rw [Circular.slots_append, Circular.slots_eq_range' (by omega),
      Circular.slots_eq_range' (by omega), around]
  next ends =>
    rw [v.toNat_getRingPos, Circular.slots_eq_range' (by omega)]

end RingBufferView

/-! ## Operations -/

/-- What a call in steps leaves behind: the steps that it made, and `errno`. -/
structure Progress where
  /-- The returned number of steps. -/
  steps : UInt32
  /-- `errno`. -/
  errno : Int
  deriving DecidableEq

/-- The bytes from an offset of an array on. -/
def bytesFrom (data : Memory) (offset count : Nat) : List UInt8 :=
  (List.range' offset count).map data

namespace RingBuffer

variable (r : RingBuffer) (v : RingBufferView)

/-- `ring_buffer_view_can_write`. -/
def viewCanWrite (bytes : UInt32) : Bool :=
  decide (v.getRingPos (r.readPos - r.writePos - 1) ≥ bytes)

/-- `ring_buffer_view_can_read`. -/
def viewCanRead (bytes : UInt32) : Bool :=
  decide (v.getRingPos (r.writePos - r.readPos) ≥ bytes)

/-- `ring_buffer_can_write`. -/
def canWrite (bytes : UInt32) : Bool := r.viewCanWrite r.static bytes

/-- `ring_buffer_can_read`. -/
def canRead (bytes : UInt32) : Bool := r.viewCanRead r.static bytes

/-- `ring_buffer_available_read`. -/
def availableRead (v : Option RingBufferView) : UInt32 :=
  (v.getD r.static).getRingPos (r.writePos - r.readPos)

/-- `ring_buffer_available_write`. -/
def availableWrite (v : Option RingBufferView) : UInt32 :=
  (v.getD r.static).getRingPos (r.readPos - r.writePos - 1)

/-- The ring after `__atomic_add_fetch` on `write_pos`. -/
def advancedWrite (stepSize : UInt32) : RingBuffer :=
  { r with writePos := r.writePos + stepSize }

/-- The ring after `__atomic_add_fetch` on `read_pos`. -/
def advancedRead (stepSize : UInt32) : RingBuffer := { r with readPos := r.readPos + stepSize }

/-- The loop of `ring_buffer_view_write` from step `i` on. -/
def viewWriteFrom (data : Memory) (stepSize : UInt32) :
    Nat → UInt32 → RingBuffer → Memory → Progress × RingBuffer × Memory
  | 0, i, r, memory => (⟨i, 0⟩, r, memory)
  | left + 1, i, r, memory =>
    if r.viewCanWrite v stepSize then
      let chunk := bytesFrom data (i * stepSize).toNat stepSize.toNat
      viewWriteFrom data stepSize left (i + 1) (r.advancedWrite stepSize)
        (store memory (v.copied r.writePos stepSize) chunk)
    else (⟨i, -eagain⟩, r, memory)

/-- `ring_buffer_view_write`. -/
def viewWrite (memory data : Memory) (stepSize steps : UInt32) : Progress × RingBuffer × Memory :=
  viewWriteFrom v data stepSize steps.toNat 0 r memory

/-- `ring_buffer_write`. -/
def write (memory data : Memory) (stepSize steps : UInt32) : Progress × RingBuffer × Memory :=
  r.viewWrite r.static memory data stepSize steps

/-- The loop of `ring_buffer_view_read` from step `i` on. -/
def viewReadFrom (memory : Memory) (stepSize : UInt32) :
    Nat → UInt32 → RingBuffer → Memory → Progress × RingBuffer × Memory
  | 0, i, r, data => (⟨i, 0⟩, r, data)
  | left + 1, i, r, data =>
    if r.viewCanRead v stepSize then
      let chunk := (v.copied r.readPos stepSize).map memory
      viewReadFrom memory stepSize left (i + 1) (r.advancedRead stepSize)
        (store data (List.range' (i * stepSize).toNat stepSize.toNat) chunk)
    else (⟨i, -eagain⟩, r, data)

/-- `ring_buffer_view_read`. -/
def viewRead (memory data : Memory) (stepSize steps : UInt32) : Progress × RingBuffer × Memory :=
  viewReadFrom v memory stepSize steps.toNat 0 r data

/-- `ring_buffer_read`. -/
def read (memory data : Memory) (stepSize steps : UInt32) : Progress × RingBuffer × Memory :=
  r.viewRead r.static memory data stepSize steps

/-- The loop of `ring_buffer_advance_write` from step `i` on. -/
def advanceWriteFrom (stepSize : UInt32) : Nat → UInt32 → RingBuffer → Progress × RingBuffer
  | 0, i, r => (⟨i, 0⟩, r)
  | left + 1, i, r =>
    if r.canWrite stepSize then advanceWriteFrom stepSize left (i + 1) (r.advancedWrite stepSize)
    else (⟨i, -eagain⟩, r)

/-- `ring_buffer_advance_write`. -/
def advanceWrite (stepSize steps : UInt32) : Progress × RingBuffer :=
  advanceWriteFrom stepSize steps.toNat 0 r

/-- The loop of `ring_buffer_advance_read` from step `i` on. -/
def advanceReadFrom (stepSize : UInt32) : Nat → UInt32 → RingBuffer → Progress × RingBuffer
  | 0, i, r => (⟨i, 0⟩, r)
  | left + 1, i, r =>
    if r.canRead stepSize then advanceReadFrom stepSize left (i + 1) (r.advancedRead stepSize)
    else (⟨i, -eagain⟩, r)

/-- `ring_buffer_advance_read`. -/
def advanceRead (stepSize steps : UInt32) : Progress × RingBuffer :=
  advanceReadFrom stepSize steps.toNat 0 r

/-- The steps that are advanced are those that would be written. -/
theorem advanceWriteFrom_eq (v : RingBufferView) (data memory : Memory) (stepSize : UInt32)
    (left : Nat) (i : UInt32) (own : r.static = v) :
    advanceWriteFrom stepSize left i r =
      ((viewWriteFrom v data stepSize left i r memory).1,
        (viewWriteFrom v data stepSize left i r memory).2.1) := by
  induction left generalizing i r memory with
  | zero => rfl
  | succ left ih =>
    rw [advanceWriteFrom, viewWriteFrom, canWrite, own]
    split
    · exact ih (r.advancedWrite stepSize) _ (i + 1) own
    · rfl

/-- The steps that are advanced are those that would be read. -/
theorem advanceReadFrom_eq (v : RingBufferView) (memory data : Memory) (stepSize : UInt32)
    (left : Nat) (i : UInt32) (own : r.static = v) :
    advanceReadFrom stepSize left i r =
      ((viewReadFrom v memory stepSize left i r data).1,
        (viewReadFrom v memory stepSize left i r data).2.1) := by
  induction left generalizing i r data with
  | zero => rfl
  | succ left ih =>
    rw [advanceReadFrom, viewReadFrom, canRead, own]
    split
    · exact ih (r.advancedRead stepSize) _ (i + 1) own
    · rfl

/-- Advancing answers as the transfer would, and moves the ring as far. -/
theorem advance_eq (memory data : Memory) (stepSize steps : UInt32) :
    r.advanceWrite stepSize steps =
        ((r.write memory data stepSize steps).1, (r.write memory data stepSize steps).2.1) ∧
      r.advanceRead stepSize steps =
        ((r.read memory data stepSize steps).1, (r.read memory data stepSize steps).2.1) :=
  ⟨advanceWriteFrom_eq r r.static data memory stepSize steps.toNat 0 rfl,
    advanceReadFrom_eq r r.static memory data stepSize steps.toNat 0 rfl⟩

/-- `ring_buffer_copy_contents`. Without a view it measures what is available before the end from
the place that is written next, not from the one that is read next. -/
def copyContents (v : Option RingBufferView) (memory : Memory) (wantedBytes : UInt32)
    (res : Memory) : Int × Memory :=
  let totalAvailable := r.availableRead v
  let availableAtEnd := match v with
    | some v => v.size - v.getRingPos r.readPos
    | none => ringBufferSize - r.static.getRingPos r.writePos
  if totalAvailable < wantedBytes then (-1, res)
  else
    (0, store res (List.range' 0 wantedBytes.toNat)
      (((v.getD r.static).copiedSplit r.readPos availableAtEnd wantedBytes).map memory))

end RingBuffer

/-! ## Contents -/

/-- The unread bytes of a ring, oldest first. -/
structure Contents (r : RingBuffer) (v : RingBufferView) (memory : Memory) (bytes : List UInt8) :
    Prop where
  /-- The counters are so many bytes apart. -/
  count : (r.writePos - r.readPos).toNat = bytes.length
  /-- One byte of the block is free. -/
  room : bytes.length < v.size.toNat
  /-- The bytes lie behind the place that is read next. -/
  held : Holds memory v.buf v.size.toNat r.readPos.toNat bytes

namespace Contents

variable {r : RingBuffer} {v : RingBufferView} {memory : Memory} {bytes : List UInt8}
  {stepSize : UInt32}

/-- A new ring is empty. -/
theorem init (r : RingBuffer) (v : RingBufferView) (memory : Memory) :
    Contents r.init v memory [] :=
  ⟨(by decide : ((0 : UInt32) - 0).toNat = 0), v.size_pos, Circular.holds_nil⟩

/-- The place that is written next lies behind the unread bytes. -/
theorem writePos_mod (contents : Contents r v memory bytes) :
    r.writePos.toNat % v.size.toNat = (r.readPos.toNat + bytes.length) % v.size.toNat := by
  have apart := contents.count
  have small := r.writePos.toNat_lt
  have small' := r.readPos.toNat_lt
  have counter : r.writePos.toNat % 2 ^ 32 = (r.readPos.toNat + bytes.length) % 2 ^ 32 := by
    rw [UInt32.toNat_sub] at apart
    omega
  rw [← Nat.mod_mod_of_dvd r.writePos.toNat v.size_dvd, counter,
    Nat.mod_mod_of_dvd _ v.size_dvd]

/-- The unread bytes are available. -/
theorem toNat_availableRead (contents : Contents r v memory bytes) :
    (v.getRingPos (r.writePos - r.readPos)).toNat = bytes.length := by
  rw [v.toNat_getRingPos, contents.count, Nat.mod_eq_of_lt contents.room]

/-- All but one of the other places are available. -/
theorem toNat_availableWrite (contents : Contents r v memory bytes) :
    (v.getRingPos (r.readPos - r.writePos - 1)).toNat = v.size.toNat - 1 - bytes.length := by
  have apart := contents.count
  have room := contents.room
  have small := r.writePos.toNat_lt
  have small' := r.readPos.toNat_lt
  have short : bytes.length < 2 ^ 32 := by
    have wide := v.size.toNat_lt
    omega
  have distance : (r.readPos - r.writePos - 1).toNat = 2 ^ 32 - 1 - bytes.length := by
    rw [UInt32.toNat_sub] at apart
    rw [UInt32.toNat_sub, UInt32.toNat_sub, UInt32.toNat_one]
    omega
  obtain ⟨turns, whole⟩ := v.size_dvd
  obtain ⟨turns, rfl⟩ : ∃ more, turns = more + 1 := by
    cases turns with
    | zero => omega
    | succ more => exact ⟨more, rfl⟩
  have split : 2 ^ 32 - 1 - bytes.length =
      v.size.toNat * turns + (v.size.toNat - 1 - bytes.length) := by
    rw [whole, Nat.mul_succ]
    omega
  rw [v.toNat_getRingPos, distance, split, Nat.mul_add_mod, Nat.mod_eq_of_lt (by omega)]

/-- A step can be written when it leaves one byte free. -/
theorem viewCanWrite_iff (contents : Contents r v memory bytes) :
    r.viewCanWrite v stepSize ↔ bytes.length + stepSize.toNat < v.size.toNat := by
  have room := contents.room
  rw [RingBuffer.viewCanWrite, decide_eq_true_iff, ge_iff_le, UInt32.le_iff_toNat_le,
    contents.toNat_availableWrite]
  omega

/-- A step can be read when so many bytes are unread. -/
theorem viewCanRead_iff (contents : Contents r v memory bytes) :
    r.viewCanRead v stepSize ↔ stepSize.toNat ≤ bytes.length := by
  rw [RingBuffer.viewCanRead, decide_eq_true_iff, ge_iff_le, UInt32.le_iff_toNat_le,
    contents.toNat_availableRead]

/-- A step is written behind the unread bytes. -/
theorem copied_writePos (contents : Contents r v memory bytes)
    (fits : stepSize.toNat ≤ v.size.toNat) :
    v.copied r.writePos stepSize =
      slots v.buf v.size.toNat (r.readPos.toNat + bytes.length) stepSize.toNat := by
  rw [v.copied_eq_slots fits, Circular.slots_congr contents.writePos_mod]

/-- Bytes that lie where the next step is written are the newest of the unread bytes once the
counter has moved on. -/
theorem published (contents : Contents r v memory bytes) {chunk : List UInt8}
    (length : chunk.length = stepSize.toNat)
    (free : bytes.length + stepSize.toNat < v.size.toNat)
    (written : Holds memory v.buf v.size.toNat r.writePos.toNat chunk) :
    Contents (r.advancedWrite stepSize) v memory (bytes ++ chunk) := by
  have wide := v.size.toNat_lt
  have apart := contents.count
  refine ⟨?_, by rw [List.length_append]; omega, ?_⟩
  · have moved : r.writePos + stepSize - r.readPos = r.writePos - r.readPos + stepSize := by
      rw [UInt32.sub_eq_add_neg, UInt32.sub_eq_add_neg, UInt32.add_assoc, UInt32.add_assoc,
        UInt32.add_comm stepSize]
    rw [RingBuffer.advancedWrite, List.length_append, length, moved, UInt32.toNat_add, apart]
    exact Nat.mod_eq_of_lt (by omega)
  · rw [Circular.holds_append]
    exact ⟨contents.held, written.congr contents.writePos_mod.symm⟩

/-- A written step is the newest of the unread bytes. -/
theorem advancedWrite (contents : Contents r v memory bytes) {chunk : List UInt8}
    (length : chunk.length = stepSize.toNat)
    (free : bytes.length + stepSize.toNat < v.size.toNat) :
    Contents (r.advancedWrite stepSize) v (store memory (v.copied r.writePos stepSize) chunk)
      (bytes ++ chunk) := by
  have stored := contents.held.store chunk (by omega)
  rw [length, ← contents.copied_writePos (by omega), Circular.holds_append] at stored
  have before : Contents r v (store memory (v.copied r.writePos stepSize) chunk) bytes :=
    ⟨contents.count, contents.room, stored.1⟩
  exact before.published length free (stored.2.congr contents.writePos_mod)

/-- The oldest bytes are where a step is read. -/
theorem map_copied (contents : Contents r v memory bytes)
    (enough : stepSize.toNat ≤ bytes.length) :
    (v.copied r.readPos stepSize).map memory = bytes.take stepSize.toNat := by
  have room := contents.room
  have held := contents.held
  rw [← List.take_append_drop stepSize.toNat bytes, Circular.holds_append] at held
  have front := held.1
  rw [Holds, List.length_take, Nat.min_eq_left enough] at front
  rw [v.copied_eq_slots (by omega), front]

/-- A read step is no longer among the unread bytes. -/
theorem advancedRead (contents : Contents r v memory bytes)
    (enough : stepSize.toNat ≤ bytes.length) :
    Contents (r.advancedRead stepSize) v memory (bytes.drop stepSize.toNat) := by
  have room := contents.room
  have apart := contents.count
  have wide := v.size.toNat_lt
  refine ⟨?_, by rw [List.length_drop]; omega, ?_⟩
  · have moved : r.writePos - (r.readPos + stepSize) = r.writePos - r.readPos - stepSize := by
      rw [UInt32.sub_eq_add_neg, UInt32.sub_eq_add_neg, UInt32.sub_eq_add_neg, UInt32.neg_add,
        UInt32.sub_eq_add_neg, UInt32.add_assoc]
    rw [RingBuffer.advancedRead, List.length_drop, moved,
      UInt32.toNat_sub_of_le _ _ (UInt32.le_iff_toNat_le.mpr (by omega)), apart]
  · have held := contents.held
    rw [← List.take_append_drop stepSize.toNat bytes, Circular.holds_append] at held
    have back := held.2
    rw [List.length_take, Nat.min_eq_left enough] at back
    exact back.congr (v.toNat_add_mod_size r.readPos stepSize)

end Contents

end XrTransport.GfxStream
