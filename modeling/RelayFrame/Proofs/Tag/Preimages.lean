import Mathlib.Data.FinEnum
import Mathlib.Data.Set.Card
import RelayFrame.Proofs.Tag.Fields

/-!
# The hashes behind one tag

A tag shows all bits of a hash but three, so two hashes give it exactly when
they agree in the other sixty-one bits, and there are eight of them.
-/

namespace RelayFrame

/-- Whether two states agree in every bit but 29, 30 and 31, the top three
bits of their fourth byte. -/
def AgreeInShownBits (first second : UInt64) : Prop :=
  ∀ bit < 64, bit ≠ 29 → bit ≠ 30 → bit ≠ 31 →
    first.toNat.testBit bit = second.toNat.testBit bit

theorem agreeInShownBits_iff {first second : UInt64} :
    AgreeInShownBits first second ↔
      first.toNat % 2 ^ 29 = second.toNat % 2 ^ 29 ∧
        first.toNat / 2 ^ 32 = second.toNat / 2 ^ 32 := by
  constructor
  · intro agree
    constructor
    · apply Nat.eq_of_testBit_eq
      intro bit
      rw [Nat.testBit_mod_two_pow, Nat.testBit_mod_two_pow]
      by_cases below : bit < 29
      · rw [agree bit (by omega) (by omega) (by omega) (by omega)]
      · simp [below]
    · apply Nat.eq_of_testBit_eq
      intro bit
      rw [Nat.testBit_div_two_pow, Nat.testBit_div_two_pow]
      by_cases inside : bit + 32 < 64
      · exact agree _ inside (by omega) (by omega) (by omega)
      · have pow_le : 2 ^ 64 ≤ 2 ^ (bit + 32) :=
          Nat.pow_le_pow_right (by decide) (by omega)
        rw [Nat.testBit_eq_false_of_lt (first.toNat_lt.trans_le pow_le),
          Nat.testBit_eq_false_of_lt (second.toNat_lt.trans_le pow_le)]
  · rintro ⟨low, high⟩ bit - not29 not30 not31
    rcases Nat.lt_or_ge bit 29 with below | notBelow
    · have shown :
          (first.toNat % 2 ^ 29).testBit bit =
            (second.toNat % 2 ^ 29).testBit bit := by rw [low]
      rw [Nat.testBit_mod_two_pow, Nat.testBit_mod_two_pow] at shown
      simpa [below] using shown
    · obtain ⟨index, rfl⟩ : ∃ index, bit = index + 32 :=
        ⟨bit - 32, by omega⟩
      have shown :
          (first.toNat / 2 ^ 32).testBit index =
            (second.toNat / 2 ^ 32).testBit index := by rw [high]
      rwa [Nat.testBit_div_two_pow, Nat.testBit_div_two_pow] at shown

namespace Chonkle

/-- A tag shows every bit of the hash but the three hidden ones. -/
theorem scatter_eq_iff_agreeInShownBits {first second : UInt64} :
    scatter first = scatter second ↔ AgreeInShownBits first second := by
  rw [scatter_eq_iff, agreeInShownBits_iff]

/-! ## Counting -/

/-- The hash with given values in its three hidden bits and otherwise the bits
of another one. -/
def withHidden (hash : UInt64) (hidden : Fin 8) : UInt64 :=
  UInt64.ofNat
    (hash.toNat % 2 ^ 29 + 2 ^ 29 * hidden + 2 ^ 32 * (hash.toNat / 2 ^ 32))

theorem toNat_withHidden (hash : UInt64) (hidden : Fin 8) :
    (withHidden hash hidden).toNat =
      hash.toNat % 2 ^ 29 + 2 ^ 29 * hidden +
        2 ^ 32 * (hash.toNat / 2 ^ 32) := by
  have bound := hash.toNat_lt
  have hiddenBound := hidden.isLt
  exact UInt64.toNat_ofNat_of_lt' (by simp only [UInt64.size]; omega)

theorem withHidden_injective (hash : UInt64) :
    Function.Injective (withHidden hash) := by
  intro first second same
  have values := congrArg UInt64.toNat same
  rw [toNat_withHidden, toNat_withHidden] at values
  exact Fin.ext (by omega)

/-- The hashes of one tag are those with any values in the hidden bits. -/
theorem setOf_scatter_eq (hash : UInt64) :
    {other | scatter other = scatter hash} = Set.range (withHidden hash) := by
  ext other
  rw [Set.mem_ofPred_eq, scatter_eq_iff, Set.mem_range]
  constructor
  · rintro ⟨low, high⟩
    let hidden : Fin 8 :=
      ⟨other.toNat / 2 ^ 29 % 8, Nat.mod_lt _ (by decide)⟩
    have hiddenValue : (hidden : Nat) = other.toNat / 2 ^ 29 % 8 := rfl
    refine ⟨hidden, UInt64.toNat_inj.mp ?_⟩
    rw [toNat_withHidden, hiddenValue]
    omega
  · rintro ⟨hidden, rfl⟩
    have hiddenBound := hidden.isLt
    rw [toNat_withHidden]
    omega

/-- Eight hashes give the tag of a hash. -/
theorem ncard_setOf_scatter_eq (hash : UInt64) :
    {other | scatter other = scatter hash}.ncard = 8 := by
  rw [setOf_scatter_eq, ← Set.image_univ,
    Set.ncard_image_of_injective _ (withHidden_injective hash),
    Set.ncard_univ, Nat.card_eq_fintype_card, Fintype.card_fin]

end Chonkle

end RelayFrame
