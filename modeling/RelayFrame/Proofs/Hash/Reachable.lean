import Mathlib.Data.FinEnum
import Mathlib.Dynamics.PeriodicPts.Lemmas
import RelayFrame.Proofs.Hash.Drift

/-!
# Every state is the hash of some message

A step with a fixed byte permutes the states, so it can be undone by more
steps.  Multiplying by the prime, and flipping bits of the low byte, therefore
lead from states that some message reaches to such states, in both directions.
Together they also lead from a multiple of 256 to the next ones at a fixed
distance, which is an odd multiple of 256, and so to all of them.
-/

namespace RelayFrame.Hash

/-- Whether some message leaves this state. -/
def Reachable (state : UInt64) : Prop :=
  ∃ message, hash message = state

theorem reachable_absorb
    {state : UInt64} (byte : UInt8) (reachable : Reachable state) :
    Reachable (absorb state byte) := by
  obtain ⟨message, rfl⟩ := reachable
  exact ⟨message ++ [byte], absorbAll_append _ _ _⟩

private theorem reachable_iterate
    {state : UInt64} (byte : UInt8) (reachable : Reachable state)
    (count : Nat) : Reachable ((absorb · byte)^[count] state) := by
  induction count with
  | zero => exact reachable
  | succ count inductionHypothesis =>
      rw [Function.iterate_succ_apply']
      exact reachable_absorb byte inductionHypothesis

/-- A step can be gone back, since repeating it returns to where it began. -/
theorem reachable_absorb_iff {state : UInt64} {byte : UInt8} :
    Reachable (absorb state byte) ↔ Reachable state := by
  constructor
  · intro reachable
    have injective : Function.Injective (absorb · byte) :=
      fun _ _ => absorb_injective
    obtain ⟨period, positive, returns⟩ := injective.mem_periodicPts state
    obtain ⟨count, rfl⟩ := Nat.exists_eq_succ_of_ne_zero positive.ne'
    have around := reachable_iterate byte reachable count
    rw [← Function.iterate_succ_apply (absorb · byte), returns] at around
    exact around
  · exact reachable_absorb byte

theorem absorb_zero (state : UInt64) : absorb state 0 = state * prime := by
  rw [absorb]
  simp

theorem reachable_mul_prime_iff {state : UInt64} :
    Reachable (state * prime) ↔ Reachable state := by
  rw [← absorb_zero, reachable_absorb_iff]

/-- States that differ in their low byte only are reached together. -/
theorem reachable_xor_iff {state : UInt64} {byte : UInt8} :
    Reachable (state ^^^ byte.toUInt64) ↔ Reachable state := by
  rw [← reachable_mul_prime_iff]
  exact reachable_absorb_iff

/-! ## Multiples of 256 -/

theorem xor_eq_add (upper : UInt64) (byte : UInt8) :
    256 * upper ^^^ byte.toUInt64 = 256 * upper + byte.toUInt64 := by
  have lowZero : (256 * upper).toUInt8 = 0 := by
    rw [UInt64.toUInt8_mul, show (256 : UInt64).toUInt8 = 0 by decide,
      UInt8.zero_mul]
  have sum := toNat_xor (256 * upper) byte
  have upperValue : (256 * upper).toNat = 256 * upper.toNat % 2 ^ 64 := by
    rw [UInt64.toNat_mul]
    rfl
  have byteBound := byte.toNat_lt
  rw [lowZero] at sum
  simp only [nudge, UInt8.zero_xor] at sum
  apply UInt64.toNat_inj.mp
  rw [UInt64.toNat_add, UInt8.toNat_toUInt64]
  have zeroValue : (0 : UInt8).toNat = 0 := rfl
  omega

/-- The distance between multiples of 256, in units of 256. -/
private def stride : UInt64 := 0xce965057aff695

private theorem reachable_add_stride_iff {upper : UInt64} :
    Reachable (256 * (upper + stride)) ↔ Reachable (256 * upper) := by
  have moved :
      (256 * (upper + stride) ^^^ (0x7b : UInt8).toUInt64) * prime =
        256 * upper * prime ^^^ (1 : UInt8).toUInt64 := by
    have unit : (256 * stride + 0x7b) * prime = 1 := by decide
    rw [UInt64.mul_assoc, xor_eq_add, xor_eq_add]
    calc (256 * (upper + stride) + 0x7b) * prime
        = 256 * (upper * prime) + (256 * stride + 0x7b) * prime := by grind
      _ = 256 * (upper * prime) + 1 := by rw [unit]
  calc Reachable (256 * (upper + stride))
      ↔ Reachable
          ((256 * (upper + stride) ^^^ (0x7b : UInt8).toUInt64) * prime) := by
        rw [reachable_mul_prime_iff, reachable_xor_iff]
    _ ↔ Reachable (256 * upper * prime) := by rw [moved, reachable_xor_iff]
    _ ↔ Reachable (256 * upper) := reachable_mul_prime_iff

private theorem reachable_add_strides_iff (upper : UInt64) (count : Nat) :
    Reachable (256 * (upper + UInt64.ofNat count * stride)) ↔
      Reachable (256 * upper) := by
  induction count with
  | zero => simp
  | succ count inductionHypothesis =>
      have next :
          upper + UInt64.ofNat (count + 1) * stride =
            upper + UInt64.ofNat count * stride + stride := by
        rw [UInt64.ofNat_add]
        grind
      rw [next, reachable_add_stride_iff, inductionHypothesis]

/-- All states without a low byte are reached or none is. -/
private theorem reachable_multiple_iff (first second : UInt64) :
    Reachable (256 * first) ↔ Reachable (256 * second) := by
  let count := (second - first) * 0x3639d6c6aa4224bd
  have counted : first + UInt64.ofNat count.toNat * stride = second := by
    have unit : 0x3639d6c6aa4224bd * stride = 1 := by decide
    rw [UInt64.ofNat_toNat, UInt64.mul_assoc, unit]
    grind
  rw [← reachable_add_strides_iff first count.toNat, counted]

private theorem eq_multiple_xor_low (state : UInt64) :
    256 * (state / 256) ^^^ state.toUInt8.toUInt64 = state := by
  rw [xor_eq_add]
  apply UInt64.toNat_inj.mp
  have bound := state.toNat_lt
  simp
  omega

/-- Some message leaves the given state. -/
theorem reachable (state : UInt64) : Reachable state := by
  have start : Reachable (256 * (basis / 256)) := by
    rw [← @reachable_xor_iff _ basis.toUInt8, eq_multiple_xor_low]
    exact ⟨[], rfl⟩
  rw [← eq_multiple_xor_low state, reachable_xor_iff,
    reachable_multiple_iff _ (basis / 256)]
  exact start

end RelayFrame.Hash
