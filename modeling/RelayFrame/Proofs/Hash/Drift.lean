import Mathlib.Data.Int.ModEq
import Mathlib.Tactic.Ring
import RelayFrame.Proofs.Hash.LowByte

/-!
# Hashing as arithmetic

Folding a byte into a state moves the state by a small amount that only its
low byte decides.  Hashing is therefore affine but for that low byte: the state
after some bytes is a power of the prime times the state before, plus a drift
that depends on the bytes and on the low byte they start from.
-/

namespace RelayFrame.Hash

/-- How far a byte moves a state with the given low byte. -/
def nudge (low byte : UInt8) : Int :=
  (low ^^^ byte).toNat - low.toNat

/-- How far bytes move a state with the given low byte, beyond what their
number alone does to it. -/
def drift (low : UInt8) : Bytes → Int
  | [] => 0
  | byte :: rest =>
      prime.toNat ^ (rest.length + 1) * nudge low byte +
        drift (absorbLow low byte) rest

theorem nudge_bounds (low byte : UInt8) :
    -255 ≤ nudge low byte ∧ nudge low byte ≤ 255 := by
  have before := low.toNat_lt
  have after := (low ^^^ byte).toNat_lt
  simp only [nudge]
  omega

theorem nudge_sub_bounds (low first second : UInt8) :
    -255 ≤ nudge low first - nudge low second ∧
      nudge low first - nudge low second ≤ 255 := by
  have firstBound := (low ^^^ first).toNat_lt
  have secondBound := (low ^^^ second).toNat_lt
  simp only [nudge]
  omega

/-- Different bytes move a state by different amounts. -/
theorem nudge_injective
    {low first second : UInt8} (same : nudge low first = nudge low second) :
    first = second := by
  apply @absorbLow_byte_injective low
  have values : (low ^^^ first).toNat = (low ^^^ second).toNat := by
    simp only [nudge] at same
    omega
  rw [absorbLow, absorbLow, UInt8.toNat_inj.mp values]

theorem toNat_xor (state : UInt64) (byte : UInt8) :
    ((state ^^^ byte.toUInt64).toNat : Int) =
      state.toNat + nudge state.toUInt8 byte := by
  have lowPart :
      (state ^^^ byte.toUInt64).toNat % 2 ^ 8 =
        (state.toUInt8 ^^^ byte).toNat := by
    have byteBound := byte.toNat_lt
    rw [UInt64.toNat_xor, Nat.xor_mod_two_pow, UInt8.toNat_xor,
      UInt8.toNat_toUInt64, Nat.mod_eq_of_lt byteBound]
    rfl
  have highPart :
      (state ^^^ byte.toUInt64).toNat / 2 ^ 8 = state.toNat / 2 ^ 8 := by
    rw [UInt64.toNat_xor, Nat.xor_div_two_pow, UInt8.toNat_toUInt64,
      Nat.div_eq_of_lt byte.toNat_lt, Nat.xor_zero]
  have low : state.toUInt8.toNat = state.toNat % 2 ^ 8 := rfl
  simp only [nudge]
  omega

/-- A step of the hash is linear in the state but for the nudge, which only the
low byte and the new byte decide. -/
theorem toNat_absorb (state : UInt64) (byte : UInt8) :
    ((absorb state byte).toNat : Int) ≡
      prime.toNat * (state.toNat + nudge state.toUInt8 byte)
        [ZMOD 2 ^ 64] := by
  rw [← toNat_xor, absorb, UInt64.toNat_mul, mul_comm (prime.toNat : Int)]
  push_cast
  exact Int.mod_modEq _ _

/-- The state after bytes, from the state before them. -/
theorem toNat_absorbAll (state : UInt64) (bytes : Bytes) :
    ((absorbAll state bytes).toNat : Int) ≡
      prime.toNat ^ bytes.length * state.toNat + drift state.toUInt8 bytes
        [ZMOD 2 ^ 64] := by
  induction bytes generalizing state with
  | nil => simp [absorbAll, drift]
  | cons byte rest inductionHypothesis =>
      have step := toNat_absorb state byte
      have continued := inductionHypothesis (absorb state byte)
      rw [toUInt8_absorb] at continued
      calc ((absorbAll state (byte :: rest)).toNat : Int)
          ≡ prime.toNat ^ rest.length * (absorb state byte).toNat +
              drift (absorbLow state.toUInt8 byte) rest [ZMOD 2 ^ 64] :=
            continued
        _ ≡ prime.toNat ^ rest.length *
                (prime.toNat * (state.toNat + nudge state.toUInt8 byte)) +
              drift (absorbLow state.toUInt8 byte) rest [ZMOD 2 ^ 64] :=
            (step.mul_left _).add_right _
        _ = prime.toNat ^ (byte :: rest).length * state.toNat +
              drift state.toUInt8 (byte :: rest) := by
            rw [List.length_cons, drift]
            ring

/-- From one state, equally many bytes end as far apart as their drifts. -/
theorem toNat_absorbAll_sub
    (state : UInt64) {first second : Bytes}
    (sameLength : first.length = second.length) :
    ((absorbAll state first).toNat : Int) - (absorbAll state second).toNat ≡
      drift state.toUInt8 first - drift state.toUInt8 second
        [ZMOD 2 ^ 64] := by
  have difference :=
    (toNat_absorbAll state first).sub (toNat_absorbAll state second)
  rw [sameLength, add_sub_add_left_eq_sub] at difference
  exact difference

end RelayFrame.Hash
