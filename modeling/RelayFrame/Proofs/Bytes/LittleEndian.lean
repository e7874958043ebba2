import Mathlib.Algebra.Group.Nat.Even
import RelayFrame.Bytes

/-!
# Little-endian numbers read back

Writing and reading are inverse in both directions: on numbers that fit the
width, and on byte strings of that width.
-/

namespace RelayFrame

/-- A byte string is written again from its number and its length. -/
theorem littleEndian_ofLittleEndian (bytes : Bytes) :
    littleEndian bytes.length (ofLittleEndian bytes) = bytes := by
  induction bytes with
  | nil => rfl
  | cons low rest inductionHypothesis =>
      have lowBound := low.toNat_lt
      have quotient :
          (low.toNat + 256 * ofLittleEndian rest) / 256 =
            ofLittleEndian rest := by omega
      have remainder :
          UInt8.ofNat (low.toNat + 256 * ofLittleEndian rest) = low := by
        apply UInt8.toNat_inj.mp
        simp only [UInt8.toNat_ofNat']
        omega
      simp only [List.length_cons, ofLittleEndian, littleEndian,
        quotient, remainder, inductionHypothesis]

theorem ofLittleEndian_lt (bytes : Bytes) :
    ofLittleEndian bytes < 256 ^ bytes.length := by
  induction bytes with
  | nil => simp [ofLittleEndian]
  | cons low rest inductionHypothesis =>
      have lowBound := low.toNat_lt
      simp only [ofLittleEndian, List.length_cons, Nat.pow_succ]
      omega

/-- A number that fits the width is read back. -/
theorem ofLittleEndian_littleEndian
    {width number : Nat} (fits : number < 256 ^ width) :
    ofLittleEndian (littleEndian width number) = number := by
  induction width generalizing number with
  | zero =>
      have : number = 0 := by simpa using fits
      simp [littleEndian, ofLittleEndian, this]
  | succ width inductionHypothesis =>
      have restFits : number / 256 < 256 ^ width :=
        Nat.div_lt_of_lt_mul (by simpa [Nat.pow_succ, Nat.mul_comm] using fits)
      simp only [littleEndian, ofLittleEndian,
        inductionHypothesis restFits, UInt8.toNat_ofNat']
      omega

end RelayFrame
