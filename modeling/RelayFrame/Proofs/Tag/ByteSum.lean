import Mathlib.Algebra.BigOperators.Group.List.Basic
import Mathlib.Data.FinEnum
import Mathlib.Data.Nat.Bitwise
import Mathlib.Data.Set.Card
import RelayFrame.Tag.Pittle

/-!
# What a Pittle shows of a message

A Pittle is read off the sum of the bytes of a message in sixteen bits, so the
order of the bytes is lost, and so are the multiples of 65536.  Its two bytes
cross the low with the high byte of that sum and overlay the lowest bit, so
seven bits are all that it shows.
-/

namespace RelayFrame

def byteSum (bytes : Bytes) : Nat :=
  (bytes.map UInt8.toNat).sum

theorem byteSum_append (first second : Bytes) :
    byteSum (first ++ second) = byteSum first + byteSum second := by
  rw [byteSum, List.map_append, List.sum_append]
  rfl

theorem byteSum_eq_of_perm {first second : Bytes} (perm : first.Perm second) :
    byteSum first = byteSum second :=
  (perm.map UInt8.toNat).sum_eq

theorem byteSum_replicate (count : Nat) (byte : UInt8) :
    byteSum (List.replicate count byte) = count * byte.toNat := by
  rw [byteSum, List.map_replicate, List.sum_replicate_nat]

namespace Pittle

/-! ## The sum -/

private theorem toNat_foldl (message : Bytes) (total : UInt16) :
    (message.foldl (fun total byte => total + byte.toUInt16) total).toNat =
      (total.toNat + byteSum message) % 65536 := by
  induction message generalizing total with
  | nil => exact (Nat.mod_eq_of_lt total.toNat_lt).symm
  | cons byte rest inductionHypothesis =>
      have sum : byteSum (byte :: rest) = byte.toNat + byteSum rest :=
        List.sum_cons
      rw [List.foldl_cons, inductionHypothesis, sum, UInt16.toNat_add,
        UInt8.toNat_toUInt16]
      omega

theorem toNat_checksum (message : Bytes) :
    (checksum message).toNat = byteSum message % 65536 := by
  rw [checksum, toNat_foldl]
  exact congrArg (· % 65536) (Nat.zero_add _)

/-- The checksum is the sum of the bytes, reduced once at the end. -/
theorem checksum_eq (message : Bytes) :
    checksum message = UInt16.ofNat (byteSum message) :=
  UInt16.toNat_inj.mp ((toNat_checksum message).trans UInt16.toNat_ofNat'.symm)

/-! ## The tag of a sum -/

/-- The low byte of a sum in sixteen bits, crossed with its high byte. -/
def crossed (total : Nat) : Nat :=
  (total % 65536 % 256) ^^^ (total % 65536 / 256)

theorem toNat_crossed_bytes (sum : UInt16) :
    (sum.toUInt8 ^^^ (sum >>> 8).toUInt8).toNat = crossed sum.toNat := by
  have bound := sum.toNat_lt
  have high : sum.toNat / 256 < 256 := by omega
  have shifted : (sum >>> 8).toNat = sum.toNat / 256 := by
    rw [UInt16.toNat_shiftRight, Nat.shiftRight_eq_div_pow]
    rfl
  rw [UInt8.toNat_xor, UInt16.toNat_toUInt8, UInt16.toNat_toUInt8, shifted,
    crossed, Nat.mod_eq_of_lt bound, Nat.mod_eq_of_lt high]

/-- Bytes whose lowest bit is overlaid are equal if they agree in the other
bits, whatever mask was laid over both. -/
theorem one_or_xor_eq_iff {left right mask : UInt8} :
    1 ||| (left ^^^ mask) = 1 ||| (right ^^^ mask) ↔
      ∀ bit < 8, bit ≠ 0 →
        left.toNat.testBit bit = right.toNat.testBit bit := by
  have lowest (bit : Nat) : (1 : Nat).testBit bit = decide (bit = 0) := by
    rw [Bool.eq_iff_iff, Nat.testBit_one_eq_true_iff_self_eq_zero,
      decide_eq_true_iff]
  have overlaid (byte : UInt8) (bit : Nat) :
      (1 ||| (byte ^^^ mask)).toNat.testBit bit =
        (decide (bit = 0) ||
          (byte.toNat.testBit bit ^^ mask.toNat.testBit bit)) := by
    rw [UInt8.toNat_or, UInt8.toNat_xor, Nat.testBit_or, Nat.testBit_xor,
      ← lowest]
    rfl
  rw [← UInt8.toNat_inj]
  constructor
  · intro same bit _ notLowest
    have agree := congrArg (·.testBit bit) same
    simp only [overlaid] at agree
    simpa [notLowest] using agree
  · intro agree
    apply Nat.eq_of_testBit_eq
    intro bit
    rw [overlaid, overlaid]
    by_cases notLowest : bit = 0
    · rw [decide_eq_true notLowest, Bool.true_or, Bool.true_or]
    by_cases inside : bit < 8
    · rw [agree bit inside notLowest]
    · have none (byte : UInt8) : byte.toNat.testBit bit = false :=
        Nat.testBit_eq_false_of_lt <| byte.toNat_lt.trans_le <|
          Nat.pow_le_pow_right (by decide) (Nat.le_of_not_lt inside)
      rw [none left, none right]

theorem odd_first : ∀ sum : UInt16, (first sum).toNat % 2 = 1 := by
  intro sum
  have odd : ∀ byte : UInt8, (1 ||| byte).toNat % 2 = 1 := by decide +kernel
  exact odd _

/-- The second byte of a tag is the first one under a fixed mask. -/
theorem second_of_odd :
    ∀ byte : UInt8, byte.toNat % 2 = 1 → second byte = byte ^^^ 0x8e := by
  decide +kernel

/-- The second byte is the first with four bits turned. -/
theorem second_first (sum : UInt16) : second (first sum) = first sum ^^^ 0x8e :=
  second_of_odd _ (odd_first sum)

/-- Two sums fold into one tag when their crossed bytes agree above the lowest
bit. -/
theorem fold_eq_iff {left right : UInt16} :
    fold left = fold right ↔
      ∀ bit < 8, bit ≠ 0 →
        (crossed left.toNat).testBit bit =
          (crossed right.toNat).testBit bit := by
  have onlyFirst : fold left = fold right ↔ first left = first right := by
    constructor
    · intro same
      have parts : [first left, _] = [first right, _] :=
        congrArg Vector.toList same
      exact (List.cons.inj parts).1
    · exact congrArg fun byte => #v[byte, second byte]
  rw [onlyFirst, first, first, one_or_xor_eq_iff, toNat_crossed_bytes,
    toNat_crossed_bytes]

theorem crossed_mod (total : Nat) : crossed (total % 65536) = crossed total := by
  rw [crossed, Nat.mod_mod, ← crossed]

theorem ofMessage_eq_iff {first second : Bytes} :
    ofMessage first = ofMessage second ↔
      ∀ bit < 8, bit ≠ 0 →
        (crossed (byteSum first)).testBit bit =
          (crossed (byteSum second)).testBit bit := by
  rw [ofMessage, ofMessage, fold_eq_iff, toNat_checksum, toNat_checksum,
    crossed_mod, crossed_mod]

/-! ## Counting -/

/-- The tag with a given number in the upper seven bits of its first byte. -/
def withUpperBits (number : Fin 128) : Pittle :=
  #v[UInt8.ofNat (2 * number + 1), UInt8.ofNat (2 * number + 1) ^^^ 0x8e]

theorem withUpperBits_injective : Function.Injective withUpperBits := by
  intro left right same
  have parts :
      [UInt8.ofNat (2 * left + 1), _] = [UInt8.ofNat (2 * right + 1), _] :=
    congrArg Vector.toList same
  have values := congrArg UInt8.toNat (List.cons.inj parts).1
  rw [UInt8.toNat_ofNat', UInt8.toNat_ofNat'] at values
  exact Fin.ext (by omega)

/-- The mask in the first byte is undone by the sum, which has no high byte. -/
theorem fold_eq_withUpperBits :
    ∀ number : Fin 128,
      fold (UInt16.ofNat ((2 * number + 1) ^^^ 193)) =
        withUpperBits number := by
  decide +kernel

theorem exists_withUpperBits_eq_fold (sum : UInt16) :
    ∃ number, withUpperBits number = fold sum := by
  have bound := (first sum).toNat_lt
  have odd := odd_first sum
  refine ⟨⟨(first sum).toNat / 2, by omega⟩, ?_⟩
  have value : 2 * ((first sum).toNat / 2) + 1 = (first sum).toNat := by
    omega
  rw [withUpperBits, fold, second_first]
  simp only [value, UInt8.ofNat_toNat]

/-- The tags are told by the upper seven bits of their first byte, and all
values occur there. -/
theorem range_fold : Set.range fold = Set.range withUpperBits := by
  apply Set.Subset.antisymm
  · rintro _ ⟨sum, rfl⟩
    exact exists_withUpperBits_eq_fold sum
  · rintro _ ⟨number, rfl⟩
    exact ⟨_, fold_eq_withUpperBits number⟩

theorem ncard_range_fold : (Set.range fold).ncard = 128 := by
  rw [range_fold, ← Set.image_univ,
    Set.ncard_image_of_injective _ withUpperBits_injective, Set.ncard_univ,
    Nat.card_eq_fintype_card, Fintype.card_fin]

end Pittle

end RelayFrame
