import Mathlib.Data.List.Basic
import Mathlib.Tactic.IntervalCases
import Mathlib.Tactic.LinearCombination
import RelayFrame.Proofs.Hash.Drift
import RelayFrame.Proofs.Tag.Fields

/-!
# Four bytes after a common start

A tag hides three bits of the hash, so two different hashes may give the same
tag.  Four last bytes cannot hide there: from any one state, two runs of four
bytes that end in the same tag are the same.  What the two runs add to the
state differs by a sum of small numbers times powers of the prime, and the
prime is so sparse that the sum splits into a part below `2 ^ 36` and a part
from `2 ^ 40` on, neither of which reaches the hidden bits without vanishing.
-/

namespace RelayFrame.Hash

/-- The drift of four bytes, one nudge at each power of the prime. -/
theorem drift_four (low first second third fourth : UInt8) :
    drift low [first, second, third, fourth] =
      prime.toNat ^ 4 * nudge low first +
        prime.toNat ^ 3 * nudge (absorbLow low first) second +
        prime.toNat ^ 2 *
          nudge (absorbLow (absorbLow low first) second) third +
        prime.toNat *
          nudge (absorbLow (absorbLow (absorbLow low first) second) third)
            fourth := by
  simp only [drift, List.length_cons, List.length_nil]
  ring

section Sparse

variable {z₁ z₂ z₃ z₄ hidden : Int}

/-- The prime is `2 ^ 40 + 435`, so its powers have two parts modulo
`2 ^ 64`. -/
private theorem exists_split
    (sum :
      (prime.toNat : Int) ^ 4 * z₁ + prime.toNat ^ 3 * z₂ +
          prime.toNat ^ 2 * z₃ + prime.toNat * z₄ ≡
        2 ^ 29 * hidden [ZMOD 2 ^ 64]) :
    ∃ quotient : Int,
      435 ^ 3 * z₁ + 435 ^ 2 * z₂ + 435 * z₃ + z₄ +
          2 ^ 40 * (3 * 435 ^ 2 * z₁ + 870 * z₂ + z₃) =
        2 ^ 29 * (14886173955864302971 * hidden) + 2 ^ 64 * quotient := by
  have sparse : (prime.toNat : Int) = 2 ^ 40 + 435 := by decide
  rw [sparse] at sum
  obtain ⟨multiple, difference⟩ := sum.dvd
  -- The product of the prime and its inverse is `1 + 2 ^ 64 * 887285111055`.
  refine
    ⟨-(887285111055 *
            ((2 ^ 40 + 435) ^ 3 * z₁ + (2 ^ 40 + 435) ^ 2 * z₂ +
              (2 ^ 40 + 435) * z₃ + z₄) +
          multiple * 14886173955864302971) -
        (2 ^ 56 * z₁ + 3 * 435 * 2 ^ 16 * z₁ + 2 ^ 16 * z₂), ?_⟩
  linear_combination (-14886173955864302971) * difference

private theorem hidden_eq_zero
    {upper quotient : Int}
    (bound₁ : -255 ≤ z₁ ∧ z₁ ≤ 255) (bound₂ : -510 ≤ z₂ ∧ z₂ ≤ 510)
    (bound₃ : -510 ≤ z₃ ∧ z₃ ≤ 510) (bound₄ : -510 ≤ z₄ ∧ z₄ ≤ 510)
    (hiddenBound : -7 ≤ hidden ∧ hidden ≤ 7)
    (split :
      435 ^ 3 * z₁ + 435 ^ 2 * z₂ + 435 * z₃ + z₄ + 2 ^ 40 * upper =
        2 ^ 29 * (14886173955864302971 * hidden) + 2 ^ 64 * quotient) :
    hidden = 0 ∧ 435 ^ 3 * z₁ + 435 ^ 2 * z₂ + 435 * z₃ + z₄ = 0 := by
  obtain ⟨rest, lower⟩ :
      ∃ rest : Int,
        435 ^ 3 * z₁ + 435 ^ 2 * z₂ + 435 * z₃ + z₄ =
          2 ^ 29 * (1403 * hidden + 2048 * rest) :=
    ⟨quotient * 2 ^ 24 - upper + hidden * 7268639626886866, by omega⟩
  have small :
      -41 ≤ 1403 * hidden + 2048 * rest ∧
        1403 * hidden + 2048 * rest ≤ 41 := by omega
  have hiddenZero : hidden = 0 := by
    obtain ⟨atLeast, atMost⟩ := hiddenBound
    interval_cases hidden <;> omega
  omega

private theorem eq_zero_of_lower_eq_zero
    {quotient : Int}
    (bound₁ : -255 ≤ z₁ ∧ z₁ ≤ 255) (bound₂ : -510 ≤ z₂ ∧ z₂ ≤ 510)
    (bound₃ : -510 ≤ z₃ ∧ z₃ ≤ 510) (bound₄ : -510 ≤ z₄ ∧ z₄ ≤ 510)
    (lower : 435 ^ 3 * z₁ + 435 ^ 2 * z₂ + 435 * z₃ + z₄ = 0)
    (upper : 3 * 435 ^ 2 * z₁ + 870 * z₂ + z₃ = 2 ^ 24 * quotient) :
    z₁ = 0 ∧ z₂ = 0 ∧ z₃ = 0 ∧ z₄ = 0 := by
  obtain ⟨two, twoValue⟩ : ∃ two, two = 435 * z₁ + z₂ := ⟨_, rfl⟩
  obtain ⟨three, threeValue⟩ : ∃ three, three = 435 * two + z₃ := ⟨_, rfl⟩
  have threeTiny : -1 ≤ three ∧ three ≤ 1 := by omega
  have twoTiny : -1 ≤ two ∧ two ≤ 1 := by omega
  have oneTiny : -1 ≤ z₁ ∧ z₁ ≤ 1 := by omega
  have quotientZero : quotient = 0 := by omega
  have threeZero : three = 0 := by omega
  have twoZero : two = 0 := by omega
  omega

/-- Four nudges whose weighted sum differs from zero in the hidden bits only
are all zero. -/
private theorem eq_zero_of_sum_modEq
    (bound₁ : -255 ≤ z₁ ∧ z₁ ≤ 255) (bound₂ : -510 ≤ z₂ ∧ z₂ ≤ 510)
    (bound₃ : -510 ≤ z₃ ∧ z₃ ≤ 510) (bound₄ : -510 ≤ z₄ ∧ z₄ ≤ 510)
    (hiddenBound : -7 ≤ hidden ∧ hidden ≤ 7)
    (sum :
      (prime.toNat : Int) ^ 4 * z₁ + prime.toNat ^ 3 * z₂ +
          prime.toNat ^ 2 * z₃ + prime.toNat * z₄ ≡
        2 ^ 29 * hidden [ZMOD 2 ^ 64]) :
    z₁ = 0 ∧ z₂ = 0 ∧ z₃ = 0 ∧ z₄ = 0 := by
  obtain ⟨quotient, split⟩ := exists_split sum
  obtain ⟨hiddenZero, lower⟩ :=
    hidden_eq_zero bound₁ bound₂ bound₃ bound₄ hiddenBound split
  have upper : 3 * 435 ^ 2 * z₁ + 870 * z₂ + z₃ = 2 ^ 24 * quotient := by
    rw [lower, hiddenZero] at split
    omega
  exact eq_zero_of_lower_eq_zero bound₁ bound₂ bound₃ bound₄ lower upper

end Sparse

/-- From one state, runs of four bytes that end in the same tag are the
same. -/
theorem eq_of_scatter_absorbAll_four
    {state : UInt64} {first second : Bytes}
    (firstLength : first.length = 4) (secondLength : second.length = 4)
    (same :
      Chonkle.scatter (absorbAll state first) =
        Chonkle.scatter (absorbAll state second)) :
    first = second := by
  obtain ⟨a₁, a₂, a₃, a₄, rfl⟩ := List.length_eq_four.mp firstLength
  obtain ⟨b₁, b₂, b₃, b₄, rfl⟩ := List.length_eq_four.mp secondLength
  obtain ⟨hidden, hiddenBound, apart⟩ :=
    Chonkle.exists_hidden_of_scatter_eq same
  have difference :=
    toNat_absorbAll_sub state (firstLength.trans secondLength.symm)
  rw [apart, drift_four, drift_four] at difference
  have wideBound (low other first second : UInt8) :
      -510 ≤ nudge low first - nudge other second ∧
        nudge low first - nudge other second ≤ 510 := by
    have firstBounds := nudge_bounds low first
    have secondBounds := nudge_bounds other second
    omega
  obtain ⟨zero₁, zero₂, zero₃, zero₄⟩ :=
    eq_zero_of_sum_modEq (nudge_sub_bounds _ a₁ b₁) (wideBound _ _ a₂ b₂)
      (wideBound _ _ a₃ b₃) (wideBound _ _ a₄ b₄) hiddenBound <| by
        convert difference.symm using 1
        ring
  have same₁ := nudge_injective (Int.sub_eq_zero.mp zero₁)
  subst same₁
  have same₂ := nudge_injective (Int.sub_eq_zero.mp zero₂)
  subst same₂
  have same₃ := nudge_injective (Int.sub_eq_zero.mp zero₃)
  subst same₃
  have same₄ := nudge_injective (Int.sub_eq_zero.mp zero₄)
  subst same₄
  rfl

end RelayFrame.Hash
