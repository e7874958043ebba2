import Mathlib.Data.Nat.Bitwise
import RelayFrame.Tag.Chonkle

/-!
# The low byte of a hash

Only the low byte of a state meets the bytes that are hashed.  It evolves on
its own, without the fifty-six bits above it, and neither it nor the whole
state ever loses anything: for a fixed byte every step is one to one in the
state, and for a fixed state it is one to one in the byte.
-/

namespace RelayFrame.Hash

/-! ## One step -/

/-- The low byte after one more byte. -/
def absorbLow (low byte : UInt8) : UInt8 :=
  (low ^^^ byte) * 0xb3

def absorbAllLow (low : UInt8) (bytes : Bytes) : UInt8 :=
  bytes.foldl absorbLow low

theorem toUInt8_absorb (state : UInt64) (byte : UInt8) :
    (absorb state byte).toUInt8 = absorbLow state.toUInt8 byte := by
  rw [absorb, UInt64.toUInt8_mul, UInt64.toUInt8_xor, UInt8.toUInt8_toUInt64]
  rfl

/-- The low byte of the hash never looks above the low byte of the state. -/
theorem toUInt8_absorbAll (state : UInt64) (bytes : Bytes) :
    (absorbAll state bytes).toUInt8 = absorbAllLow state.toUInt8 bytes := by
  induction bytes generalizing state with
  | nil => rfl
  | cons byte rest inductionHypothesis =>
      have step := toUInt8_absorb state byte
      have continued := inductionHypothesis (absorb state byte)
      rw [step] at continued
      exact continued

/-! ## Nothing is lost -/

/-- What undoes the multiplication of a step. -/
def primeInverse : UInt64 := 0xce965057aff6957b

theorem prime_mul_primeInverse : prime * primeInverse = 1 := by
  decide

private theorem xor_cancel
    {first second mask : UInt8} (same : first ^^^ mask = second ^^^ mask) :
    first = second := by
  have undone := congrArg (· ^^^ mask) same
  simpa only [UInt8.xor_assoc, UInt8.xor_self, UInt8.xor_zero] using undone

private theorem mul_lowPrime_injective
    {first second : UInt8} (same : first * 0xb3 = second * 0xb3) :
    first = second := by
  have undone := congrArg (· * (0x7b : UInt8)) same
  simpa only [UInt8.mul_assoc, show (0xb3 : UInt8) * 0x7b = 1 by decide,
    UInt8.mul_one] using undone

theorem absorbLow_injective
    {first second byte : UInt8}
    (same : absorbLow first byte = absorbLow second byte) :
    first = second :=
  xor_cancel (mul_lowPrime_injective same)

/-- From the same low byte, different bytes lead to different low bytes. -/
theorem absorbLow_byte_injective
    {low first second : UInt8}
    (same : absorbLow low first = absorbLow low second) :
    first = second := by
  have swapped := mul_lowPrime_injective same
  rw [UInt8.xor_comm low first, UInt8.xor_comm low second] at swapped
  exact xor_cancel swapped

theorem absorb_injective
    {first second : UInt64} {byte : UInt8}
    (same : absorb first byte = absorb second byte) :
    first = second := by
  have undone := congrArg (· * primeInverse) same
  simp only [absorb, UInt64.mul_assoc, prime_mul_primeInverse,
    UInt64.mul_one] at undone
  have masked := congrArg (· ^^^ byte.toUInt64) undone
  simpa only [UInt64.xor_assoc, UInt64.xor_self, UInt64.xor_zero] using masked

theorem absorbAll_injective
    {first second : UInt64} {bytes : Bytes}
    (same : absorbAll first bytes = absorbAll second bytes) :
    first = second := by
  induction bytes generalizing first second with
  | nil => exact same
  | cons byte rest inductionHypothesis =>
      exact absorb_injective (inductionHypothesis same)

theorem absorbAllLow_injective
    {first second : UInt8} {bytes : Bytes}
    (same : absorbAllLow first bytes = absorbAllLow second bytes) :
    first = second := by
  induction bytes generalizing first second with
  | nil => exact same
  | cons byte rest inductionHypothesis =>
      exact absorbLow_injective (inductionHypothesis same)

end RelayFrame.Hash
