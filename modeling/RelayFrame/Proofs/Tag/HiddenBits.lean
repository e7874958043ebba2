import RelayFrame.Proofs.Hash.Multiples
import RelayFrame.Proofs.Tag.Fields

/-!
# What a tag hides for some states it shows for others

Two runs of bytes that give the same tag from every state give the same state
from every state.  From a state that the first run takes to a single byte, the
second run can only be off in the hidden bits; adding the right multiples of
256 before both runs carries whatever is there out of the hidden bits, and
with it any difference between the powers of the prime.
-/

namespace RelayFrame.Hash

open Chonkle

/-! ## Carrying out of the hidden bits -/

section Carries

variable {low state ratio hidden : Nat}

private theorem exists_hidden
    (lowBound : low < 256) (stateBound : state < 2 ^ 64)
    (same :
      low % 2 ^ 29 = state % 2 ^ 29 ∧ low / 2 ^ 32 = state / 2 ^ 32) :
    ∃ hidden, hidden < 8 ∧ state = low + 2 ^ 29 * hidden :=
  ⟨state / 2 ^ 29, by omega, by omega⟩

/-- Adding `2 ^ 32` shows the low half of the ratio. -/
private theorem ratio_mod_of_carry
    (lowBound : low < 256) (hiddenBound : hidden < 8)
    (same :
      (low + 2 ^ 32) / 2 ^ 32 =
        (low + 2 ^ 29 * hidden + 2 ^ 32 * ratio % 2 ^ 64) % 2 ^ 64 /
          2 ^ 32) :
    ratio % 2 ^ 32 = 1 := by
  have product : 2 ^ 32 * ratio % 2 ^ 64 = 2 ^ 32 * (ratio % 2 ^ 32) := by
    omega
  rw [product] at same
  have bound : ratio % 2 ^ 32 < 2 ^ 32 := by omega
  generalize ratio % 2 ^ 32 = half at *
  omega

/-- Filling the hidden bits carries out what was in them. -/
private theorem hidden_eq_zero_of_carry
    (lowBound : low < 256) (hiddenBound : hidden < 8)
    (half : ratio % 2 ^ 32 = 1)
    (same :
      (low + 7 * 2 ^ 29) / 2 ^ 32 =
        (low + 2 ^ 29 * hidden + 7 * 2 ^ 29 * ratio % 2 ^ 64) % 2 ^ 64 /
          2 ^ 32) :
    hidden = 0 ∧ ratio % 2 ^ 35 = 1 := by
  obtain ⟨upper, rfl⟩ : ∃ upper, ratio = 1 + 2 ^ 32 * upper :=
    ⟨ratio / 2 ^ 32, by omega⟩
  have product :
      7 * 2 ^ 29 * (1 + 2 ^ 32 * upper) % 2 ^ 64 =
        7 * 2 ^ 29 + 2 ^ 61 * (7 * upper % 8) := by omega
  rw [product] at same
  have bound : 7 * upper % 8 < 8 := by omega
  have bothZero : hidden = 0 ∧ 7 * upper % 8 = 0 := by
    generalize 7 * upper % 8 = top at *
    omega
  omega

private theorem ratio_eq_one_of_carry
    (half : ratio % 2 ^ 35 = 1)
    (same :
      (low + 256) / 2 ^ 32 =
        (low + 256 * ratio % 2 ^ 64) % 2 ^ 64 / 2 ^ 32) :
    256 * ratio % 2 ^ 64 = 256 := by
  obtain ⟨upper, rfl⟩ : ∃ upper, ratio = 1 + 2 ^ 35 * upper :=
    ⟨ratio / 2 ^ 35, by omega⟩
  have product :
      256 * (1 + 2 ^ 35 * upper) % 2 ^ 64 =
        256 + 2 ^ 43 * (upper % 2 ^ 21) := by omega
  rw [product] at same ⊢
  have bound : upper % 2 ^ 21 < 2 ^ 21 := by omega
  generalize upper % 2 ^ 21 = top at *
  omega

end Carries

/-- A byte and a state that give the same tag after the same multiples of 256
are added to the one, and these times the ratio to the other, are equal. -/
private theorem eq_of_scatter_add_multiple
    {low state ratio : UInt64} (lowBound : low.toNat < 256)
    (same :
      ∀ upper, scatter (low + 256 * upper) =
        scatter (state + 256 * (ratio * upper))) :
    state = low ∧ 256 * ratio = 256 := by
  have unmoved : scatter low = scatter state := by simpa using same 0
  obtain ⟨hidden, hiddenBound, stateValue⟩ :=
    exists_hidden lowBound state.toNat_lt (scatter_eq_iff.mp unmoved)
  have moved (upper : UInt64) := (scatter_eq_iff.mp (same upper)).2
  simp only [UInt64.toNat_add, UInt64.toNat_mul, stateValue] at moved
  have byHalf := moved 0x1000000
  have byHidden := moved 0xe00000
  have byOne := moved 1
  simp only [UInt64.reduceToNat] at byHalf byHidden byOne
  have half :=
    @ratio_mod_of_carry _ ratio.toNat _ lowBound hiddenBound (by omega)
  obtain ⟨hiddenZero, more⟩ :=
    @hidden_eq_zero_of_carry _ ratio.toNat _ lowBound hiddenBound half
      (by omega)
  subst hiddenZero
  have one :=
    @ratio_eq_one_of_carry low.toNat ratio.toNat more (by omega)
  constructor
  · apply UInt64.toNat_inj.mp
    omega
  · apply UInt64.toNat_inj.mp
    rw [UInt64.toNat_mul]
    exact one

/-- Runs of bytes that give the same tag from every state give the same state
from every state, and their lengths give the same power of the prime. -/
theorem absorbAll_eq_of_scatter_eq
    {first second : Bytes}
    (same :
      ∀ state, scatter (absorbAll state first) =
        scatter (absorbAll state second)) :
    (∀ state, absorbAll state first = absorbAll state second) ∧
      256 * prime ^ first.length = 256 * prime ^ second.length := by
  let ratio := prime ^ second.length * primeInverse ^ first.length
  have unit := prime_pow_mul_primeInverse_pow first.length
  -- What adding a multiple of 256 after the first run does to the second.
  have firstMoved (state upper : UInt64) :
      absorbAll (state + 256 * (primeInverse ^ first.length * upper)) first =
        absorbAll state first + 256 * upper := by
    rw [absorbAll_add_multiple]
    grind
  have secondMoved (state upper : UInt64) :
      absorbAll (state + 256 * (primeInverse ^ first.length * upper)) second =
        absorbAll state second + 256 * (ratio * upper) := by
    rw [absorbAll_add_multiple]
    grind
  have single (low : UInt8) :
      ∃ state, absorbAll state first = low.toUInt64 ∧
        absorbAll state second = low.toUInt64 ∧ 256 * ratio = 256 := by
    obtain ⟨state, reached⟩ := exists_absorbAll_eq first low.toUInt64
    have lowBound : low.toUInt64.toNat < 256 := by simp [low.toNat_lt]
    obtain ⟨other, one⟩ := eq_of_scatter_add_multiple lowBound
      (fun upper => by
        rw [← secondMoved, ← same, firstMoved, reached])
    exact ⟨state, reached, other, one⟩
  obtain ⟨-, -, -, one⟩ := single 0
  constructor
  · intro state
    let after := absorbAll state first
    have split : after = after.toUInt8.toUInt64 + 256 * (after / 256) :=
      eq_low_add_multiple after
    obtain ⟨start, firstReached, secondReached, -⟩ := single after.toUInt8
    have fromStart :
        state = start + 256 * (primeInverse ^ first.length * (after / 256)) := by
      apply @absorbAll_injective _ _ first
      rw [firstMoved, firstReached]
      exact split
    calc absorbAll state first
        = after.toUInt8.toUInt64 + 256 * (after / 256) := split
      _ = after.toUInt8.toUInt64 + 256 * (ratio * (after / 256)) := by grind
      _ = absorbAll state second := by
          rw [← secondReached, ← secondMoved, ← fromStart]
  · calc 256 * prime ^ first.length
        = 256 * ratio * prime ^ first.length := by rw [one]
      _ = 256 * prime ^ second.length := by grind

end RelayFrame.Hash
