import Mathlib.Algebra.Order.BigOperators.Group.List
import Mathlib.Data.Nat.ModEq
import Mathlib.Tactic.Linarith
import Mathlib.Tactic.Ring
import RelayFrame.Proofs.Lattice.Vector

/-!
# Vectors packed into one number

Arithmetic on large natural numbers is quick to evaluate where arithmetic on a
list of integers is not.  So a vector becomes one number, each entry lifted by
an offset and put into a lane of its own.  Adding a multiple of one vector to
another is then three multiplications, and the norm is read off all lanes at
once: the bit of the offset tells which entries are negative, and a residue
modulo the largest lane adds the lanes up.
-/

namespace RelayFrame.Lattice

/-- Numbers side by side, the first one lowest. -/
def pack (width : Nat) : List Nat → Nat
  | [] => 0
  | lane :: lanes => lane + 2 ^ width * pack width lanes

/-- An entry above the offset. -/
def lift (offset : Nat) (entry : Int) : Nat :=
  (entry + offset).toNat

/-- The entries of a vector side by side, with their signs. -/
def tally (width : Nat) : List Int → Int
  | [] => 0
  | entry :: entries => entry + 2 ^ width * tally width entries

/-- The lanes after adding a vector `factor - offset` times, the vector being
given by a tally's positive and negative part. -/
def shift (packed positive negative factor offset : Nat) : Nat :=
  packed + (factor * positive + offset * negative) -
    (offset * positive + factor * negative)

/-! ## Adding a multiple -/

theorem tally_scaled (width : Nat) (factor : Int) (vector : List Int) :
    tally width (scaled factor vector) = factor * tally width vector := by
  induction vector with
  | nil => simp [scaled, tally]
  | cons entry entries inductionHypothesis =>
      rw [scaled] at inductionHypothesis
      simp only [scaled, List.map_cons, tally, inductionHypothesis]
      ring

theorem tally_plus
    {first second : List Int} (sameLength : first.length = second.length)
    (width : Nat) :
    tally width (plus first second) =
      tally width first + tally width second := by
  induction first generalizing second with
  | nil =>
      have empty : second = [] := by simpa using sameLength.symm
      simp [empty, plus, tally]
  | cons entry entries inductionHypothesis =>
      cases second with
      | nil => simp at sameLength
      | cons other others =>
          simp only [List.length_cons, Nat.add_right_cancel_iff] at sameLength
          simp only [plus_cons, tally, inductionHypothesis sameLength]
          ring

/-- The lanes of lifted entries are the tally, with the offset in every lane.
-/
theorem cast_pack_lift
    {offset : Nat} {vector : List Int} (within : Within offset vector)
    (width : Nat) :
    (pack width (vector.map (lift offset)) : Int) =
      tally width vector +
        offset * pack width (List.replicate vector.length 1) := by
  induction vector with
  | nil => simp [pack, tally]
  | cons entry entries inductionHypothesis =>
      simp only [Within, List.mem_cons, forall_eq_or_imp] at within
      have lifted : (lift offset entry : Int) = entry + offset := by
        have above := within.1
        rw [lift]
        omega
      have rest := inductionHypothesis within.2
      simp only [List.map_cons, List.length_cons, List.replicate_succ, pack,
        tally]
      push_cast
      rw [lifted, rest]
      ring

/-- Adding a multiple of a vector to all lanes at once carries nothing over
from one lane to the next. -/
theorem shift_pack_lift
    {first second : List Int} (sameLength : first.length = second.length)
    {offset factor bias : Nat} (within : Within offset first)
    (stillWithin :
      Within offset (plus first (scaled (factor - bias) second)))
    (width : Nat) :
    shift (pack width (first.map (lift offset)))
        (tally width second).toNat (-tally width second).toNat factor bias =
      pack width
        ((plus first (scaled (factor - bias) second)).map (lift offset)) := by
  have sameScaled : first.length = (scaled (factor - bias) second).length := by
    rw [length_scaled, sameLength]
  have before := cast_pack_lift within width
  have after := cast_pack_lift stillWithin width
  rw [tally_plus sameScaled, tally_scaled, length_plus sameScaled] at after
  have split :
      tally width second =
        (tally width second).toNat - (-tally width second).toNat := by omega
  generalize (tally width second).toNat = positive at *
  generalize (-tally width second).toNat = negative at *
  rw [split] at after
  have moved :
      (pack width (first.map (lift offset)) : Int) +
            (factor * positive + bias * negative) =
        pack width
            ((plus first (scaled (factor - bias) second)).map (lift offset)) +
          (bias * positive + factor * negative) := by
    rw [before, after]
    ring
  rw [shift]
  exact Nat.sub_eq_of_eq_add (by exact_mod_cast moved)

/-! ## The norm -/

def ones : Nat :=
  (2 ^ 3072 - 1) / (2 ^ 128 - 1)

/-- The norm of 24 entries above `2 ^ 100`, given the lanes' signs. -/
def magnitudeBy (packed signs : Nat) : Nat :=
  2 * ((packed &&& signs * (2 ^ 128 - 1)) % (2 ^ 128 - 1)) + 24 * 2 ^ 100 -
    (2 * (signs % (2 ^ 128 - 1) * 2 ^ 100) + packed % (2 ^ 128 - 1))

def magnitude (packed : Nat) : Nat :=
  magnitudeBy packed (packed >>> 100 &&& ones)

/-- One for an entry that is not negative. -/
private def sign (entry : Int) : Nat :=
  if 0 ≤ entry then 1 else 0

theorem land_cons
    {first second : Nat} (firstBound : first < 2 ^ 128)
    (secondBound : second < 2 ^ 128) (firsts seconds : Nat) :
    (first + 2 ^ 128 * firsts) &&& (second + 2 ^ 128 * seconds) =
      (first &&& second) + 2 ^ 128 * (firsts &&& seconds) := by
  have low :
      ((first + 2 ^ 128 * firsts) &&& (second + 2 ^ 128 * seconds)) %
          2 ^ 128 =
        first &&& second := by
    rw [Nat.and_mod_two_pow, Nat.add_mul_mod_self_left,
      Nat.add_mul_mod_self_left, Nat.mod_eq_of_lt firstBound,
      Nat.mod_eq_of_lt secondBound]
  have high :
      ((first + 2 ^ 128 * firsts) &&& (second + 2 ^ 128 * seconds)) /
          2 ^ 128 =
        firsts &&& seconds := by
    have firstHigh : (first + 2 ^ 128 * firsts) / 2 ^ 128 = firsts := by omega
    have secondHigh : (second + 2 ^ 128 * seconds) / 2 ^ 128 = seconds := by
      omega
    rw [Nat.and_div_two_pow, firstHigh, secondHigh]
  rw [← Nat.mod_add_div
    ((first + 2 ^ 128 * firsts) &&& (second + 2 ^ 128 * seconds)) (2 ^ 128),
    low, high]

theorem pack_mod (lanes : List Nat) :
    pack 128 lanes % (2 ^ 128 - 1) = lanes.sum % (2 ^ 128 - 1) := by
  induction lanes with
  | nil => rfl
  | cons lane lanes inductionHypothesis =>
      rw [pack, List.sum_cons]
      omega

/-- The bit of the offset, lane by lane. -/
private theorem signs_pack_lift
    {vector : List Int} (within : Within (2 ^ 99) vector) :
    pack 128 (vector.map (lift (2 ^ 100))) >>> 100 &&&
        pack 128 (List.replicate vector.length 1) =
      pack 128 (vector.map sign) := by
  induction vector with
  | nil => simp [pack]
  | cons entry entries inductionHypothesis =>
      simp only [Within, List.mem_cons, forall_eq_or_imp] at within
      have rest := inductionHypothesis within.2
      have above := within.1
      simp only [List.map_cons, List.length_cons, List.replicate_succ, pack]
      generalize pack 128 (entries.map (lift (2 ^ 100))) = lanes at *
      have lane :
          (lift (2 ^ 100) entry + 2 ^ 128 * lanes) >>> 100 =
            (sign entry + 2 ^ 28 * (lanes % 2 ^ 100)) +
              2 ^ 128 * (lanes >>> 100) := by
        rw [Nat.shiftRight_eq_div_pow, Nat.shiftRight_eq_div_pow, lift, sign]
        split <;> omega
      have bound : sign entry + 2 ^ 28 * (lanes % 2 ^ 100) < 2 ^ 128 := by
        rw [sign]
        split <;> omega
      have lowest : (sign entry + 2 ^ 28 * (lanes % 2 ^ 100)) &&& 1 =
          sign entry := by
        rw [Nat.and_one_is_mod, sign]
        split <;> omega
      rw [lane, land_cons bound (by decide), lowest, rest]

/-- Only the lanes of entries that are not negative. -/
private theorem kept_pack_lift
    {vector : List Int} (within : Within (2 ^ 99) vector) :
    pack 128 (vector.map (lift (2 ^ 100))) &&&
        pack 128 (vector.map sign) * (2 ^ 128 - 1) =
      pack 128
        (vector.map fun entry => sign entry * lift (2 ^ 100) entry) := by
  induction vector with
  | nil => simp [pack]
  | cons entry entries inductionHypothesis =>
      simp only [Within, List.mem_cons, forall_eq_or_imp] at within
      have above := within.1
      have bound : lift (2 ^ 100) entry < 2 ^ 128 := by
        rw [lift]
        omega
      have maskBound : sign entry * (2 ^ 128 - 1) < 2 ^ 128 := by
        rw [sign]
        split <;> decide
      have kept :
          lift (2 ^ 100) entry &&& sign entry * (2 ^ 128 - 1) =
            sign entry * lift (2 ^ 100) entry := by
        rw [sign]
        split
        · rw [Nat.one_mul, Nat.and_two_pow_sub_one_of_lt_two_pow bound,
            Nat.one_mul]
        · simp
      simp only [List.map_cons, pack]
      rw [Nat.add_mul, Nat.mul_assoc, land_cons bound maskBound, kept,
        inductionHypothesis within.2]

private theorem norm_add_sums
    {vector : List Int} (within : Within (2 ^ 99) vector) :
    norm vector + 2 * ((vector.map sign).sum * 2 ^ 100) +
        (vector.map (lift (2 ^ 100))).sum =
      2 * (vector.map fun entry => sign entry * lift (2 ^ 100) entry).sum +
        vector.length * 2 ^ 100 := by
  induction vector with
  | nil => rfl
  | cons entry entries inductionHypothesis =>
      simp only [Within, List.mem_cons, forall_eq_or_imp] at within
      have rest := inductionHypothesis within.2
      have above := within.1
      have single :
          entry.natAbs + 2 * (sign entry * 2 ^ 100) + lift (2 ^ 100) entry =
            2 * (sign entry * lift (2 ^ 100) entry) + 2 ^ 100 := by
        rw [sign, lift]
        split <;> omega
      simp only [norm, List.map_cons, List.sum_cons, List.length_cons]
      linarith

private theorem sum_le_length
    {entries : List Int} {value : Int → Nat} {bound : Nat}
    (bounded : ∀ entry ∈ entries, value entry ≤ bound) :
    (entries.map value).sum ≤ entries.length * bound := by
  have sum := List.sum_le_card_nsmul (entries.map value) bound
    (by simpa using bounded)
  simpa using sum

/-- The norm, read off the lanes. -/
theorem magnitude_pack_lift
    {vector : List Int} (dimension : vector.length = 24)
    (within : Within (2 ^ 99) vector) :
    magnitude (pack 128 (vector.map (lift (2 ^ 100)))) = norm vector := by
  have onesEq : ones = pack 128 (List.replicate vector.length 1) := by
    rw [dimension]
    decide +kernel
  have sums := norm_add_sums within
  have signSum : (vector.map sign).sum ≤ vector.length * 1 := by
    apply sum_le_length
    intro entry _
    rw [sign]
    split <;> decide
  have liftSum :
      (vector.map (lift (2 ^ 100))).sum ≤ vector.length * 2 ^ 101 := by
    apply sum_le_length
    intro entry member
    have above := within entry member
    rw [lift]
    omega
  have keptSum :
      (vector.map fun entry => sign entry * lift (2 ^ 100) entry).sum ≤
        vector.length * 2 ^ 101 := by
    apply sum_le_length
    intro entry member
    have above := within entry member
    rw [lift, sign]
    split <;> omega
  rw [dimension] at sums signSum liftSum keptSum
  rw [magnitude, onesEq, signs_pack_lift within, magnitudeBy,
    kept_pack_lift within, pack_mod, pack_mod, pack_mod,
    Nat.mod_eq_of_lt (by omega), Nat.mod_eq_of_lt (by omega),
    Nat.mod_eq_of_lt (by omega)]
  omega

end RelayFrame.Lattice
