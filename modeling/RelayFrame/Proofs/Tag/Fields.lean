import Mathlib.Data.Nat.Bitwise
import Mathlib.Tactic.IntervalCases
import RelayFrame.Tag.Chonkle

/-!
# What a Chonkle shows of a hash

The fields of a hash determine the tag and the tag determines the fields, so a
tag shows every bit of the hash that lies in a field.  These are all bits but
the three from bit 29 on: two hashes give the same tag exactly when they agree
below bit 29 and from bit 32 on.
-/

namespace RelayFrame.Chonkle

/-! ## Fields -/

theorem field_eq (hash : UInt64) (low width : Nat) :
    field hash low width = hash.toNat / 2 ^ low % 2 ^ width := by
  simp only [field, Nat.shiftRight_eq_div_pow, Nat.one_shiftLeft]

theorem field_lt (hash : UInt64) (low width : Nat) :
    field hash low width < 2 ^ width := by
  rw [field_eq]
  exact Nat.mod_lt _ (Nat.two_pow_pos width)

theorem field_eq_of_mod_eq
    {first second : UInt64} {low width bound : Nat}
    (inside : low + width ≤ bound)
    (agree : first.toNat % 2 ^ bound = second.toNat % 2 ^ bound) :
    field first low width = field second low width := by
  rw [field_eq, field_eq]
  apply Nat.eq_of_testBit_eq
  intro index
  simp only [Nat.testBit_mod_two_pow, Nat.testBit_div_two_pow]
  by_cases within : index < width
  · have bitAgrees :=
      congrArg (fun number => number.testBit (index + low)) agree
    have below : index + low < bound := by omega
    simpa [Nat.testBit_mod_two_pow, below] using
      congrArg (decide (index < width) && ·) bitAgrees
  · simp [within]

theorem field_eq_of_div_eq
    {first second : UInt64} {low width bound : Nat}
    (inside : bound ≤ low)
    (agree : first.toNat / 2 ^ bound = second.toNat / 2 ^ bound) :
    field first low width = field second low width := by
  obtain ⟨shift, rfl⟩ := Nat.exists_eq_add_of_le inside
  rw [field_eq, field_eq, Nat.pow_add, ← Nat.div_div_eq_div_mul,
    ← Nat.div_div_eq_div_mul, agree]

/-- Numbers that agree below a field and in it agree below its end. -/
theorem mod_eq_of_field_eq
    {first second : UInt64} {low width : Nat}
    (below : first.toNat % 2 ^ low = second.toNat % 2 ^ low)
    (inside : field first low width = field second low width) :
    first.toNat % 2 ^ (low + width) = second.toNat % 2 ^ (low + width) := by
  rw [field_eq, field_eq] at inside
  rw [Nat.pow_add, Nat.mod_mul, Nat.mod_mul, below, inside]

/-- Numbers that agree above a field and in it agree from its start on. -/
theorem div_eq_of_field_eq
    {first second : UInt64} {low width : Nat}
    (above :
      first.toNat / 2 ^ (low + width) = second.toNat / 2 ^ (low + width))
    (inside : field first low width = field second low width) :
    first.toNat / 2 ^ low = second.toNat / 2 ^ low := by
  rw [field_eq, field_eq] at inside
  rw [Nat.pow_add, ← Nat.div_div_eq_div_mul, ← Nat.div_div_eq_div_mul] at above
  rw [← Nat.div_add_mod (first.toNat / 2 ^ low) (2 ^ width),
    ← Nat.div_add_mod (second.toNat / 2 ^ low) (2 ^ width), above, inside]

/-! ## Cells -/

/-- The value of the one cell that has a value of its own for each of the four
values of its field. -/
def choice (value : Nat) : Nat :=
  match value with
  | 0 => 97
  | 1 => 5
  | 2 => 43
  | _ => 13

theorem choice_lt (value : Nat) : choice value < 256 := by
  unfold choice
  split <;> decide

theorem choice_inj
    {first second : Nat} (firstBound : first < 4) (secondBound : second < 4)
    (same : choice first = choice second) : first = second := by
  interval_cases first <;> interval_cases second <;> simp_all [choice]

theorem toList_scatter (hash : UInt64) :
    (scatter hash).toList =
      [UInt8.ofNat (field hash 54 2 + 42),
        UInt8.ofNat (field hash 24 5 + 200),
        UInt8.ofNat (field hash 18 6 + 5),
        UInt8.ofNat (field hash 0 8),
        UInt8.ofNat (field hash 16 2 + 78),
        UInt8.ofNat (field hash 32 7 + 96),
        UInt8.ofNat (field hash 10 6 + 100),
        UInt8.ofNat (if field hash 56 1 = 0 then 79 else 7),
        UInt8.ofNat (if field hash 39 1 = 0 then 37 else 83),
        UInt8.ofNat (field hash 40 3 + 124),
        UInt8.ofNat (field hash 13 3 + 175),
        UInt8.ofNat (field hash 48 6 + 33),
        UInt8.ofNat (choice (field hash 8 2)),
        UInt8.ofNat (field hash 43 5 + 210),
        UInt8.ofNat (field hash 57 7 + 17)] := by
  simp only [scatter, cells, Vector.toList_map]
  rfl

/-- The fourth byte of a tag is the low byte of the hash. -/
theorem scatter_three (hash : UInt64) (inside : 3 < 15) :
    (scatter hash)[3] = hash.toUInt8 := by
  have value : (scatter hash)[3] = UInt8.ofNat (field hash 0 8) := by
    simp only [scatter, cells, Vector.getElem_map]
    rfl
  apply UInt8.toNat_inj.mp
  rw [value, field_eq]
  simp

private theorem ofNat_inj_of_lt
    {first second : Nat} (firstBound : first < 256)
    (secondBound : second < 256)
    (same : UInt8.ofNat first = UInt8.ofNat second) : first = second := by
  have values := congrArg UInt8.toNat same
  simp only [UInt8.toNat_ofNat'] at values
  omega

private theorem field_eq_of_cell_eq
    {first second : UInt64} {low width base : Nat}
    (fits : 2 ^ width + base ≤ 256)
    (same :
      UInt8.ofNat (field first low width + base) =
        UInt8.ofNat (field second low width + base)) :
    field first low width = field second low width := by
  have firstBound := field_lt first low width
  have secondBound := field_lt second low width
  have values := ofNat_inj_of_lt (by omega) (by omega) same
  omega

private theorem bit_eq_of_cell_eq
    {first second : UInt64} {low clear set : Nat}
    (clearBound : clear < 256) (setBound : set < 256)
    (different : clear ≠ set)
    (same :
      UInt8.ofNat (if field first low 1 = 0 then clear else set) =
        UInt8.ofNat (if field second low 1 = 0 then clear else set)) :
    field first low 1 = field second low 1 := by
  have firstBound := field_lt first low 1
  have secondBound := field_lt second low 1
  have values :=
    ofNat_inj_of_lt (by split <;> assumption) (by split <;> assumption) same
  split at values <;> split at values <;> omega

/-! ## The hidden bits -/

/-- Two hashes give the same tag exactly when they agree on all bits but 29,
30 and 31. -/
theorem scatter_eq_iff {first second : UInt64} :
    scatter first = scatter second ↔
      first.toNat % 2 ^ 29 = second.toNat % 2 ^ 29 ∧
        first.toNat / 2 ^ 32 = second.toNat / 2 ^ 32 := by
  rw [← Vector.toList_inj, toList_scatter, toList_scatter]
  constructor
  · intro same
    simp only [List.cons.injEq, and_true] at same
    obtain ⟨c0, c1, c2, c3, c4, c5, c6, c7, c8, c9, c10, c11, c12, c13, c14⟩ :=
      same
    have none0 : first.toNat % 2 ^ 0 = second.toNat % 2 ^ 0 := by
      simp [Nat.mod_one]
    have none64 : first.toNat / 2 ^ 64 = second.toNat / 2 ^ 64 := by
      rw [Nat.div_eq_of_lt first.toNat_lt, Nat.div_eq_of_lt second.toNat_lt]
    have choiceField : field first 8 2 = field second 8 2 :=
      choice_inj (field_lt first 8 2) (field_lt second 8 2)
        (ofNat_inj_of_lt (choice_lt _) (choice_lt _) c12)
    constructor
    · have to8 := mod_eq_of_field_eq none0 <|
        @field_eq_of_cell_eq first second 0 8 0 (by decide) c3
      have to10 := mod_eq_of_field_eq to8 choiceField
      have to16 := mod_eq_of_field_eq to10 <|
        field_eq_of_cell_eq (by decide) c6
      have to18 := mod_eq_of_field_eq to16 <|
        field_eq_of_cell_eq (by decide) c4
      have to24 := mod_eq_of_field_eq to18 <|
        field_eq_of_cell_eq (by decide) c2
      exact mod_eq_of_field_eq to24 <|
        field_eq_of_cell_eq (by decide) c1
    · have from57 := div_eq_of_field_eq none64 <|
        field_eq_of_cell_eq (by decide) c14
      have from56 := div_eq_of_field_eq from57 <|
        bit_eq_of_cell_eq (by decide) (by decide) (by decide) c7
      have from54 := div_eq_of_field_eq from56 <|
        field_eq_of_cell_eq (by decide) c0
      have from48 := div_eq_of_field_eq from54 <|
        field_eq_of_cell_eq (by decide) c11
      have from43 := div_eq_of_field_eq from48 <|
        field_eq_of_cell_eq (by decide) c13
      have from40 := div_eq_of_field_eq from43 <|
        field_eq_of_cell_eq (by decide) c9
      have from39 := div_eq_of_field_eq from40 <|
        bit_eq_of_cell_eq (by decide) (by decide) (by decide) c8
      exact div_eq_of_field_eq from39 <|
        field_eq_of_cell_eq (by decide) c5
  · rintro ⟨low, high⟩
    have below (start width : Nat) (inside : start + width ≤ 29) :
        field first start width = field second start width :=
      field_eq_of_mod_eq inside low
    have above (start width : Nat) (inside : 32 ≤ start) :
        field first start width = field second start width :=
      field_eq_of_div_eq inside high
    rw [above 54 2 (by decide), below 24 5 (by decide),
      below 18 6 (by decide), below 0 8 (by decide), below 16 2 (by decide),
      above 32 7 (by decide), below 10 6 (by decide), above 56 1 (by decide),
      above 39 1 (by decide), above 40 3 (by decide), below 13 3 (by decide),
      above 48 6 (by decide), below 8 2 (by decide), above 43 5 (by decide),
      above 57 7 (by decide)]

/-- Hashes with the same tag are a small multiple of `2 ^ 29` apart. -/
theorem exists_hidden_of_scatter_eq
    {first second : UInt64} (same : scatter first = scatter second) :
    ∃ hidden : Int,
      (-7 ≤ hidden ∧ hidden ≤ 7) ∧
        (first.toNat : Int) - second.toNat = 2 ^ 29 * hidden := by
  obtain ⟨low, high⟩ := scatter_eq_iff.mp same
  refine ⟨(first.toNat / 2 ^ 29 : Nat) - (second.toNat / 2 ^ 29 : Nat), ?_⟩
  omega

end RelayFrame.Chonkle
