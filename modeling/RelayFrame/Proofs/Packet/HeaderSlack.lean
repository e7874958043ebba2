import RelayFrame.Proofs.Packet.TagImage

/-!
# How close the bands are

Byte by byte, the bands of the first check are what tags can hold there, with
one exception.  The seventh byte of a tag holds a field of six bits, but its
band has room for seven, so the upper half of that band passes the check and
is in no tag.
-/

namespace RelayFrame.Chonkle

open Packet

/-! ## What one cell can hold -/

section Cells

variable {byte : UInt8} (low : Nat)

/-- A field above a base fills a band that is as wide as the field has values.
-/
theorem exists_ofNat_field_add_iff
    (width base : Nat) {least greatest : UInt8} (inside : low + width ≤ 64)
    (first : least.toNat = base)
    (last : greatest.toNat + 1 = base + 2 ^ width) :
    (∃ hash, UInt8.ofNat (field hash low width + base) = byte) ↔
      (Band.between least greatest).admits byte = true := by
  have room := greatest.toNat_lt
  rw [Band.admits, Bool.and_eq_true, decide_eq_true_eq, decide_eq_true_eq,
    UInt8.le_iff_toNat_le, UInt8.le_iff_toNat_le]
  constructor
  · rintro ⟨hash, rfl⟩
    have bound := field_lt hash low width
    rw [UInt8.toNat_ofNat_of_lt' (by simp only [UInt8.size]; omega)]
    omega
  · rintro ⟨atLeast, atMost⟩
    obtain ⟨hash, value⟩ :=
      @exists_field_eq low width (byte.toNat - base) inside (by omega)
    refine ⟨hash, ?_⟩
    rw [value, Nat.sub_add_cancel (by omega), UInt8.ofNat_toNat]

theorem exists_ofNat_field_iff (inside : low + 8 ≤ 64) :
    (∃ hash, UInt8.ofNat (field hash low 8) = byte) ↔
      Band.any.admits byte = true := by
  obtain ⟨hash, value⟩ :=
    @exists_field_eq low 8 byte.toNat inside byte.toNat_lt
  exact iff_of_true ⟨hash, by rw [value, UInt8.ofNat_toNat]⟩ rfl

theorem exists_ofNat_ite_field_iff
    (clear set : Nat) {values : List UInt8} (inside : low + 1 ≤ 64)
    (members :
      values = [UInt8.ofNat clear, UInt8.ofNat set] ∨
        values = [UInt8.ofNat set, UInt8.ofNat clear]) :
    (∃ hash,
        UInt8.ofNat (if field hash low 1 = 0 then clear else set) = byte) ↔
      (Band.oneOf values).admits byte = true := by
  have member :
      (Band.oneOf values).admits byte = true ↔
        byte = UInt8.ofNat clear ∨ byte = UInt8.ofNat set := by
    rcases members with rfl | rfl
    · simp [Band.admits]
    · simp [Band.admits, or_comm]
  rw [member]
  constructor
  · rintro ⟨hash, rfl⟩
    split
    · exact .inl rfl
    · exact .inr rfl
  · rintro (rfl | rfl)
    · obtain ⟨hash, value⟩ := @exists_field_eq low 1 0 inside (by decide)
      exact ⟨hash, by rw [value]; rfl⟩
    · obtain ⟨hash, value⟩ := @exists_field_eq low 1 1 inside (by decide)
      exact ⟨hash, by rw [value]; rfl⟩

theorem exists_ofNat_choice_iff (inside : low + 2 ≤ 64) :
    (∃ hash, UInt8.ofNat (choice (field hash low 2)) = byte) ↔
      (Band.oneOf [0x61, 0x05, 0x2b, 0x0d]).admits byte = true := by
  constructor
  · rintro ⟨hash, rfl⟩
    exact admits_choice _
  · intro admitted
    have reached (value : Nat) (bound : value < 2 ^ 2) :
        ∃ hash, UInt8.ofNat (choice (field hash low 2)) =
          UInt8.ofNat (choice value) := by
      obtain ⟨hash, same⟩ := @exists_field_eq low 2 value inside bound
      exact ⟨hash, by rw [same]⟩
    have member : byte = 97 ∨ byte = 5 ∨ byte = 43 ∨ byte = 13 := by
      simpa [Band.admits] using admitted
    rcases member with rfl | rfl | rfl | rfl
    · exact reached 0 (by decide)
    · exact reached 1 (by decide)
    · exact reached 2 (by decide)
    · exact reached 3 (by decide)

end Cells

/-! ## What every byte of a tag can hold -/

/-- The band that a byte of a tag fills. -/
def filledBand (position : Fin 15) : Band :=
  if position.val = 6 then .between 0x64 0xa3
  else (headerBands.tail[position.val]?).getD .any

theorem exists_ofNat_cell_iff (position : Fin 15) (byte : UInt8) :
    (∃ hash, UInt8.ofNat ((cells hash).get position) = byte) ↔
      (filledBand position).admits byte = true :=
  match position with
  | 0 => exists_ofNat_field_add_iff 54 2 42 (by decide) rfl rfl
  | 1 => exists_ofNat_field_add_iff 24 5 200 (by decide) rfl rfl
  | 2 => exists_ofNat_field_add_iff 18 6 5 (by decide) rfl rfl
  | 3 => exists_ofNat_field_iff 0 (by decide)
  | 4 => exists_ofNat_field_add_iff 16 2 78 (by decide) rfl rfl
  | 5 => exists_ofNat_field_add_iff 32 7 96 (by decide) rfl rfl
  | 6 => exists_ofNat_field_add_iff 10 6 100 (by decide) rfl rfl
  | 7 => exists_ofNat_ite_field_iff 56 79 7 (by decide) (.inr rfl)
  | 8 => exists_ofNat_ite_field_iff 39 37 83 (by decide) (.inl rfl)
  | 9 => exists_ofNat_field_add_iff 40 3 124 (by decide) rfl rfl
  | 10 => exists_ofNat_field_add_iff 13 3 175 (by decide) rfl rfl
  | 11 => exists_ofNat_field_add_iff 48 6 33 (by decide) rfl rfl
  | 12 => exists_ofNat_choice_iff 8 (by decide)
  | 13 => exists_ofNat_field_add_iff 43 5 210 (by decide) rfl rfl
  | 14 => exists_ofNat_field_add_iff 57 7 17 (by decide) rfl rfl

/-- Which bytes a tag can hold at a place, over all hashes. -/
theorem exists_get_scatter_iff (position : Fin 15) (byte : UInt8) :
    (∃ hash, (scatter hash).get position = byte) ↔
      (filledBand position).admits byte = true := by
  simp only [get_scatter, exists_ofNat_cell_iff]

end RelayFrame.Chonkle

namespace RelayFrame.Packet

open Chonkle

/-! ## What passes and is in no tag -/

theorem admits_of_firstOutOfBand?_eq_none
    {bands : List Band} {bytes : Bytes} {start : Nat}
    (none : firstOutOfBand? start bands bytes = none) {index : Nat}
    {band : Band} {byte : UInt8} (bandAt : bands[index]? = some band)
    (byteAt : bytes[index]? = some byte) : band.admits byte = true := by
  induction bands generalizing bytes start index with
  | nil => simp at bandAt
  | cons head rest inductionHypothesis =>
      cases bytes with
      | nil => simp at byteAt
      | cons value bytes =>
          rw [firstOutOfBand?] at none
          split at none
          next admitted =>
            cases index with
            | zero => simp_all
            | succ index => exact inductionHypothesis none bandAt byteAt
          next => contradiction

theorem headerFault?_eq_none_of_hasPlausibleHeader
    {packet : Bytes} (passes : hasPlausibleHeader packet = true) :
    minimumLength ≤ packet.length ∧
      firstOutOfBand? 0 headerBands packet = none := by
  rw [hasPlausibleHeader, Option.isNone_iff_eq_none, headerFault?] at passes
  split at passes
  next => contradiction
  next long => exact ⟨Nat.not_lt.mp long, passes⟩

/-- The bands are filled by tags but for the seventh byte, whose band is twice
as wide as its field. -/
theorem admits_filledBand_iff
    {position : Fin 15} {band : Band} {byte : UInt8}
    (bandAt : headerBands[position.val + 1]? = some band) :
    (filledBand position).admits byte = true ↔
      band.admits byte = true ∧ (position = 6 → byte ≤ 0xa3) := by
  by_cases seventh : position = 6
  · subst seventh
    obtain rfl : Band.between 0x64 0xe3 = band := Option.some.inj bandAt
    have filled : filledBand 6 = .between 0x64 0xa3 := rfl
    simp only [filled, Band.admits, Bool.and_eq_true, decide_eq_true_eq,
      forall_const, UInt8.le_iff_toNat_le, UInt8.reduceToNat]
    omega
  · have sameBand : filledBand position = band := by
      have elsewhere : position.val ≠ 6 := fun same => seventh (Fin.ext same)
      rw [filledBand, if_neg elsewhere, List.getElem?_tail, bandAt,
        Option.getD_some]
    simp [sameBand, seventh]

/-- In a packet that passes the first check, a byte between the type and the
payload stands in the tag of some hash, unless it is the seventh of them and
lies in the upper half of its band, where no tag reaches. -/
theorem passing_header_byte_is_in_a_tag_iff
    (packet : Bytes) (passes : hasPlausibleHeader packet = true)
    (position : Fin 15) :
    ∃ byte, packet[position.val + 1]? = some byte ∧
      ((∃ hash, (scatter hash).get position = byte) ↔
        (position = 6 → byte ≤ 0xa3)) := by
  obtain ⟨long, inBands⟩ :=
    headerFault?_eq_none_of_hasPlausibleHeader passes
  have room : position.val + 1 < packet.length :=
    lt_of_lt_of_le (Nat.succ_lt_succ position.isLt)
      (le_trans (by decide) long)
  have banded : position.val + 1 < headerBands.length :=
    Nat.succ_lt_succ position.isLt
  have byteAt := List.getElem?_eq_getElem room
  have bandAt := List.getElem?_eq_getElem banded
  have admitted :=
    admits_of_firstOutOfBand?_eq_none inBands bandAt byteAt
  refine ⟨_, byteAt, ?_⟩
  rw [exists_get_scatter_iff, admits_filledBand_iff bandAt]
  exact and_iff_right admitted

theorem greatest_seventh_byte_is_in_a_tag :
    let packet : Bytes :=
      [0x01, 0x2a, 0xc8, 0x05, 0x00, 0x4e, 0x60, 0xa3, 0x4f, 0x25, 0x7c, 0xaf,
        0x21, 0x61, 0xd2, 0x11, 0x00, 0x00]
    hasPlausibleHeader packet = true ∧ packet[7]? = some 0xa3 ∧
      ∃ hash, (scatter hash).get 6 = 0xa3 := by
  intro packet
  have passes : hasPlausibleHeader packet = true := by decide
  obtain ⟨byte, byteAt, inTag⟩ :=
    passing_header_byte_is_in_a_tag_iff packet passes 6
  obtain rfl : 0xa3 = byte := Option.some.inj byteAt
  exact ⟨passes, byteAt, inTag.mpr fun _ => by decide⟩

/-- The seventh byte may be at the top of its band, where no tag has it. -/
theorem upper_half_of_the_seventh_band_is_in_no_tag :
    let packet : Bytes :=
      [0x01, 0x2a, 0xc8, 0x05, 0x00, 0x4e, 0x60, 0xe3, 0x4f, 0x25, 0x7c, 0xaf,
        0x21, 0x61, 0xd2, 0x11, 0x00, 0x00]
    hasPlausibleHeader packet = true ∧ packet[7]? = some 0xe3 ∧
      ¬ ∃ hash, (scatter hash).get 6 = 0xe3 := by
  refine ⟨by decide, by decide, ?_⟩
  rw [exists_get_scatter_iff]
  decide

end RelayFrame.Packet
