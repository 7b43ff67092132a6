import Mathlib.Algebra.Group.Nat.Defs
import Mathlib.Data.Nat.Basic
import Mathlib.Tactic.Common

/-!
# Little-endian words

Fixed-width naturals as byte lists, least significant byte first. Writing and reading are
inverse on words that fit the width, and both sides agree on the length.
-/
namespace XrTransport

/-- The low `width` base-256 digits of a natural, least significant first. -/
def toBytes : Nat → Nat → List UInt8
  | 0, _ => []
  | width + 1, value => UInt8.ofNat value :: toBytes width (value / 256)

/-- The natural whose base-256 digits are the bytes, least significant first. -/
def ofBytes : List UInt8 → Nat
  | [] => 0
  | low :: high => low.toNat + 256 * ofBytes high

/-- A word has exactly its width in bytes. -/
@[simp]
theorem length_toBytes (width value : Nat) : (toBytes width value).length = width := by
  induction width generalizing value with
  | zero => rfl
  | succ width ih => simp [toBytes, ih]

/-- What does not fit the width is not written. -/
theorem toBytes_add_pow (width value : Nat) :
    toBytes width (value + 256 ^ width) = toBytes width value := by
  induction width generalizing value with
  | zero => rfl
  | succ width ih =>
    have high : (value + 256 ^ (width + 1)) / 256 = value / 256 + 256 ^ width := by
      rw [Nat.pow_succ, Nat.add_mul_div_right _ _ (by decide)]
    have low : UInt8.ofNat (value + 256 ^ (width + 1)) = UInt8.ofNat value := by
      apply UInt8.toNat_inj.mp
      simp only [UInt8.toNat_ofNat', Nat.pow_succ]
      omega
    rw [toBytes, toBytes, high, low, ih]

/-- Reading a written word gives the word back when it fits. -/
theorem ofBytes_toBytes {width value : Nat} (fits : value < 256 ^ width) :
    ofBytes (toBytes width value) = value := by
  induction width generalizing value with
  | zero =>
    have zero : value = 0 := by simpa using fits
    simp [toBytes, ofBytes, zero]
  | succ width ih =>
    have high : value / 256 < 256 ^ width := by
      rw [Nat.pow_succ, Nat.mul_comm] at fits
      exact Nat.div_lt_of_lt_mul fits
    simp only [toBytes, ofBytes, ih high, UInt8.toNat_ofNat']
    omega

/-- Writing a read word gives its bytes back. -/
theorem toBytes_ofBytes (bytes : List UInt8) : toBytes bytes.length (ofBytes bytes) = bytes := by
  induction bytes with
  | nil => rfl
  | cons low high ih =>
    have digit := low.toNat_lt
    have quotient : (low.toNat + 256 * ofBytes high) / 256 = ofBytes high := by omega
    simp only [List.length_cons, ofBytes, toBytes, quotient, ih, List.cons.injEq, and_true]
    apply UInt8.toNat_inj.mp
    simp only [UInt8.toNat_ofNat']
    omega

end XrTransport
