import Mathlib.Data.FinEnum
import RelayFrame.Proofs.Hash.Drift

/-!
# Multiples of 256

Above the low byte hashing is linear: a multiple of 256 added to a state comes
out as the same multiple times a power of the prime.
-/

namespace RelayFrame.Hash

theorem toUInt8_add_multiple (state upper : UInt64) :
    (state + 256 * upper).toUInt8 = state.toUInt8 := by
  rw [UInt64.toUInt8_add, UInt64.toUInt8_mul,
    show (256 : UInt64).toUInt8 = 0 by decide, UInt8.zero_mul, UInt8.add_zero]

theorem eq_low_add_multiple (state : UInt64) :
    state = state.toUInt8.toUInt64 + 256 * (state / 256) := by
  apply UInt64.toNat_inj.mp
  have bound := state.toNat_lt
  simp
  omega

/-- What is added above the low byte is multiplied by the prime and does not
meet the new byte. -/
theorem absorb_add_multiple (state upper : UInt64) (byte : UInt8) :
    absorb (state + 256 * upper) byte =
      absorb state byte + 256 * (prime * upper) := by
  have flipped :
      (state + 256 * upper) ^^^ byte.toUInt64 =
        (state ^^^ byte.toUInt64) + 256 * upper := by
    have moved := toNat_xor (state + 256 * upper) byte
    have unmoved := toNat_xor state byte
    rw [toUInt8_add_multiple, UInt64.toNat_add] at moved
    apply UInt64.toNat_inj.mp
    have bound := ((state + 256 * upper) ^^^ byte.toUInt64).toNat_lt
    rw [UInt64.toNat_add]
    omega
  rw [absorb, absorb, flipped]
  grind

theorem absorbAll_add_multiple
    (state upper : UInt64) (bytes : Bytes) :
    absorbAll (state + 256 * upper) bytes =
      absorbAll state bytes + 256 * (prime ^ bytes.length * upper) := by
  induction bytes generalizing state upper with
  | nil => simp [absorbAll]
  | cons byte rest inductionHypothesis =>
      have continued :=
        inductionHypothesis (absorb state byte) (prime * upper)
      rw [← absorb_add_multiple] at continued
      calc absorbAll (state + 256 * upper) (byte :: rest)
          = absorbAll (absorb state byte) rest +
              256 * (prime ^ rest.length * (prime * upper)) := continued
        _ = absorbAll state (byte :: rest) +
              256 * (prime ^ (byte :: rest).length * upper) := by
            rw [List.length_cons]
            change _ = absorbAll (absorb state byte) rest + _
            grind

/-- Hashing given bytes leads to every state. -/
theorem exists_absorbAll_eq (bytes : Bytes) (state : UInt64) :
    ∃ before, absorbAll before bytes = state := by
  have injective : Function.Injective (absorbAll · bytes) :=
    fun _ _ => absorbAll_injective
  exact Finite.surjective_of_injective injective state

theorem prime_pow_mul_primeInverse_pow (exponent : Nat) :
    prime ^ exponent * primeInverse ^ exponent = 1 := by
  induction exponent with
  | zero => rfl
  | succ exponent inductionHypothesis =>
      have unit := prime_mul_primeInverse
      calc prime ^ (exponent + 1) * primeInverse ^ (exponent + 1)
          = prime ^ exponent * primeInverse ^ exponent *
              (prime * primeInverse) := by grind
        _ = 1 := by rw [inductionHypothesis, unit, UInt64.mul_one]

end RelayFrame.Hash
