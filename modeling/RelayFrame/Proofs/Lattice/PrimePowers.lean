import RelayFrame.Proofs.Hash.Levels
import RelayFrame.Proofs.Lattice.Soundness
import RelayFrame.Proofs.Lattice.Table

/-!
# Small digits do not weigh a multiple of `2 ^ 57`

Up to 24 digits of absolute value at most two weigh a multiple of `2 ^ 57`
only when all of them are zero.  The digits form a vector whose inner product
with every row of residues is a multiple of `2 ^ 57`, and the search over the
rows finds no such vector but zero.  It looks only for a vector with a positive
first coefficient; one of a vector and its opposite has that, or has no
coefficients but zero.
-/

namespace RelayFrame.Lattice

open Hash

/-! ## Weighing and the powers -/

theorem weigh_eq_inner (digits : List Int) :
    weigh digits = inner digits (powers digits.length) := by
  induction digits with
  | nil => rfl
  | cons digit digits inductionHypothesis =>
      rw [weigh, List.length_cons, powers, inner, inductionHypothesis, mul_comm]

theorem weigh_append_zeros (digits : List Int) (count : Nat) :
    weigh (digits ++ zeros count) =
      prime.toNat ^ count * weigh digits := by
  induction digits with
  | nil =>
      rw [List.nil_append, weigh_eq_inner, inner_comm, inner_zeros, weigh,
        mul_zero]
  | cons digit digits inductionHypothesis =>
      rw [List.cons_append, weigh, inductionHypothesis, weigh,
        List.length_append, zeros, List.length_replicate]
      ring

theorem inner_residues_modEq
    (vector multiples : List Int) (multiplier : Int) :
    inner vector
        (multiples.map fun power => Int.bmod (multiplier * power) (2 ^ 57)) ≡
      multiplier * inner vector multiples [ZMOD 2 ^ 57] := by
  induction vector generalizing multiples with
  | nil => simp [inner]
  | cons entry entries inductionHypothesis =>
      cases multiples with
      | nil => simp [inner]
      | cons power multiples =>
          have residue :
              Int.bmod (multiplier * power) (2 ^ 57) ≡
                multiplier * power [ZMOD 2 ^ 57] :=
            Int.bmod_emod
          simp only [List.map_cons, inner]
          calc entry * Int.bmod (multiplier * power) (2 ^ 57) +
                inner entries
                  (multiples.map fun power =>
                    Int.bmod (multiplier * power) (2 ^ 57))
              ≡ entry * (multiplier * power) +
                  multiplier * inner entries multiples [ZMOD 2 ^ 57] :=
                (residue.mul_left entry).add (inductionHypothesis multiples)
            _ = multiplier * (entry * power + inner entries multiples) := by
                ring

section Vectors

variable {vector : List Int}

/-- Each dual vector is a multiple of the powers but for multiples of the
modulus, so the divisibility carries over to it. -/
theorem level_divides
    (divides : 2 ^ 57 ∣ inner vector (powers 24)) :
    ∀ level ∈ levels, 2 ^ 57 ∣ inner vector level.vector := by
  intro level member
  obtain ⟨row, -, rfl⟩ := List.mem_map.mp member
  have residues := inner_residues_modEq vector (powers 24) row.1
  rw [dual, residues.dvd_iff]
  exact divides.mul_left row.1

/-! ## No short vector -/

/-- The coordinates of a vector are its entries. -/
theorem coordinates_eq
    (dimension : vector.length = 24)
    (exact : ∀ dual ∈ levels.map (·.vector), Exact vector dual) :
    (coordinates.map fun row =>
        inner row ((levels.map (·.vector)).map (coefficient vector))) =
      vector := by
  have rows (row : List Int) :
      inner vector (combine 24 row (levels.map (·.vector))) =
        2 ^ 57 *
          inner row ((levels.map (·.vector)).map (coefficient vector)) := by
    rw [inner_combine _ fun dual member => (exact dual member).dimension,
      map_inner_eq exact, inner_scaled]
  have units :
      ((List.range 24).map fun position =>
          inner vector (scaled (2 ^ 57) ((zeros 24).set position 1))) =
        scaled (2 ^ 57) vector := by
    apply List.ext_getElem
    · simp [dimension]
    · intro position inside _
      simp only [List.length_map, List.length_range] at inside
      rw [List.getElem_map, List.getElem_range, inner_scaled,
        inner_unit vector inside]
      simp [scaled, dimension, inside]
  have products := congrArg (List.map (inner vector)) combine_coordinates
  simp only [List.map_map, Function.comp_def, rows] at products
  have injective : Function.Injective ((2 ^ 57 : Int) * ·) :=
    mul_right_injective₀ (by decide)
  apply List.map_injective_iff.mpr injective
  rw [List.map_map]
  exact products.trans units

/-- A short vector whose first coefficient is not negative is zero. -/
theorem eq_zeros_of_leading
    (dimension : vector.length = 24) (small : Within 2 vector)
    (divides : 2 ^ 57 ∣ inner vector (powers 24))
    (leading : Leading (levels.map (coefficient vector ·.vector))) :
    vector = zeros 24 := by
  have exact : ∀ dual ∈ levels.map (·.vector), Exact vector dual := by
    intro dual member
    obtain ⟨level, levelMember, rfl⟩ := List.mem_map.mp member
    exact exact_of_fits levels_fit (level_divides divides) level levelMember
  have entries := coordinates_eq dimension exact
  have passes :=
    leaf_of_search small levels_fit (by simp) (level_divides divides)
      (root_onPath rfl leading) search_passes
  rw [List.nil_append, leaf, Bool.or_eq_true, List.reverse_reverse] at passes
  have digits (dual : List Int) (member : dual ∈ levels.map (·.vector)) :
      (lift 2 (coefficient vector dual) : Int) - 2 =
        coefficient vector dual := by
    have bound := (exact dual member).natAbs_le small
    rw [lift]
    omega
  rcases passes with zero | large
  · have coefficients :
        (levels.map (·.vector)).map (coefficient vector) = zeros 24 := by
      simp only [List.all_reverse, List.all_map, List.all_eq_true,
        Function.comp_apply, Nat.beq_eq] at zero
      apply List.map_eq_replicate_iff.mpr
      intro dual member
      obtain ⟨level, levelMember, rfl⟩ := List.mem_map.mp member
      rw [← digits _ member, zero level levelMember]
      rfl
    rw [← entries, coefficients]
    apply List.map_eq_replicate_iff.mpr
    intro row _
    exact inner_zeros row 24
  · have known :
        ((levels.map (·.vector)).map (lift 2 <| coefficient vector ·)).map
            (fun digit => (digit : Int) - 2) =
          (levels.map (·.vector)).map (coefficient vector) := by
      rw [List.map_map]
      exact List.map_congr_left digits
    rw [known] at large
    obtain ⟨row, rowMember, exceeds⟩ := List.any_eq_true.mp large
    have bound :=
      small _ (entries ▸ List.mem_map_of_mem (f := _) rowMember)
    rw [Nat.blt_eq] at exceeds
    omega

theorem coefficient_neg
    {dual : List Int} (divides : 2 ^ 57 ∣ inner vector dual) :
    coefficient (scaled (-1) vector) dual = -coefficient vector dual := by
  rw [coefficient, inner_scaled_left, neg_one_mul,
    Int.neg_ediv_of_dvd divides, coefficient]

/-- A short vector is zero when its inner product with the powers is a multiple
of `2 ^ 57`. -/
theorem eq_zeros_of_dvd
    (dimension : vector.length = 24) (small : Within 2 vector)
    (divides : 2 ^ 57 ∣ inner vector (powers 24)) :
    vector = zeros 24 := by
  rcases leading_or_leading_neg (levels.map (coefficient vector ·.vector)) with
    leading | leading
  · exact eq_zeros_of_leading dimension small divides leading
  · have opposite : scaled (-1) vector = zeros 24 := by
      apply eq_zeros_of_leading
      · rw [length_scaled, dimension]
      · intro entry member
        obtain ⟨other, otherMember, rfl⟩ := List.mem_map.mp member
        have bound := small other otherMember
        omega
      · rw [inner_scaled_left]
        exact divides.mul_left (-1)
      · rw [List.map_map] at leading
        have coefficients :
            (levels.map (coefficient (scaled (-1) vector) ·.vector)) =
              levels.map ((- ·) ∘ (coefficient vector ·.vector)) := by
          apply List.map_congr_left
          intro level member
          exact coefficient_neg (level_divides divides level member)
        rw [coefficients]
        exact leading
    have twice : scaled (-1) (scaled (-1) vector) = vector := by
      simp [scaled]
    rw [← twice, opposite]
    rfl

end Vectors

/-- Up to 24 small digits that weigh a multiple of `2 ^ 57` are all zero. -/
theorem eq_zeros_of_weigh_modEq
    {digits : List Int} (short : digits.length ≤ 24) (small : Within 2 digits)
    (multiple : weigh digits ≡ 0 [ZMOD 2 ^ 57]) :
    digits = zeros digits.length := by
  let padded := digits ++ zeros (24 - digits.length)
  have dimension : padded.length = 24 := by
    simp only [padded, List.length_append, zeros, List.length_replicate]
    omega
  have paddedSmall : Within 2 padded := by
    intro entry member
    rcases List.mem_append.mp member with inside | padding
    · exact small entry inside
    · rw [List.eq_of_mem_replicate padding]
      decide
  have divides : 2 ^ 57 ∣ inner padded (powers 24) := by
    have weighed := weigh_eq_inner padded
    rw [dimension, weigh_append_zeros] at weighed
    rw [← weighed]
    exact (Int.modEq_zero_iff_dvd.mp multiple).mul_left _
  have zero := eq_zeros_of_dvd dimension paddedSmall divides
  apply List.eq_replicate_iff.mpr
  constructor
  · rfl
  · intro digit member
    have inside : digit ∈ padded := List.mem_append_left _ member
    rw [zero] at inside
    exact List.eq_of_mem_replicate inside

end RelayFrame.Lattice
