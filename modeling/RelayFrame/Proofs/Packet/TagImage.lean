import RelayFrame.Proofs.Packet.Header
import RelayFrame.Proofs.Packet.Stamping
import RelayFrame.Proofs.Tag.Packing

/-!
# Which strings are tags

Fifteen bytes are the tag of some hash exactly when each of them lies in its
band and two of them agree: the upper bits of the field behind the seventh
byte are also the field behind the eleventh.
-/

namespace RelayFrame.Chonkle

open Packet

/-! ## Cells that hold a field -/

theorem field_add_lt
    {width base : Nat} (hash : UInt64) (low : Nat)
    (fits : 2 ^ width + base ≤ 256) : field hash low width + base < 256 := by
  have bound := field_lt hash low width
  omega

/-- Every cell has room for its value. -/
theorem cells_lt (hash : UInt64) :
    ∀ cell ∈ (cells hash).toList, cell < 256 := by
  have choiceBound := choice_lt (field hash 8 2)
  have bitBound (clear set low : Nat) (clearBound : clear < 256)
      (setBound : set < 256) :
      (if field hash low 1 = 0 then clear else set) < 256 := by
    split <;> assumption
  simp only [cells, Vector.toList_mk, List.forall_mem_cons]
  refine ⟨field_add_lt _ _ (by decide), field_add_lt _ _ (by decide),
    field_add_lt _ _ (by decide), field_lt _ _ 8,
    field_add_lt _ _ (by decide), field_add_lt _ _ (by decide),
    field_add_lt _ _ (by decide), bitBound _ _ _ (by decide) (by decide),
    bitBound _ _ _ (by decide) (by decide), field_add_lt _ _ (by decide),
    field_add_lt _ _ (by decide), field_add_lt _ _ (by decide), choiceBound,
    field_add_lt _ _ (by decide), field_add_lt _ _ (by decide), ?_⟩
  simp

theorem get_scatter (hash : UInt64) (index : Fin 15) :
    (scatter hash).get index = UInt8.ofNat ((cells hash).get index) := by
  exact Vector.getElem_map UInt8.ofNat index.isLt

theorem toNat_scatter (hash : UInt64) (index : Fin 15) :
    ((scatter hash).get index).toNat = (cells hash).get index := by
  have bound : (cells hash).get index < 256 :=
    cells_lt hash _
      (Vector.mem_toList_iff.mpr (Vector.getElem_mem index.isLt))
  rw [get_scatter, UInt8.toNat_ofNat_of_lt' bound]

/-- A byte in the range of a cell is what the cell holds for one value of its
field. -/
theorem ofNat_field_add
    {hash : UInt64} {byte : UInt8} {low width base top : Nat}
    (value : field hash low width = (byte.toNat - base) % 2 ^ width)
    (range : base ≤ byte.toNat ∧ byte.toNat ≤ top)
    (fits : top < base + 2 ^ width) :
    UInt8.ofNat (field hash low width + base) = byte := by
  have small : byte.toNat - base < 2 ^ width := by omega
  rw [value, Nat.mod_eq_of_lt small, Nat.sub_add_cancel range.1,
    UInt8.ofNat_toNat]

theorem ofNat_ite_field
    {hash : UInt64} {byte : UInt8} {low clear set : Nat}
    (value : field hash low 1 = (if byte.toNat = clear then 0 else 1) % 2 ^ 1)
    (oneOf : byte.toNat = clear ∨ byte.toNat = set) :
    UInt8.ofNat (if field hash low 1 = 0 then clear else set) = byte := by
  rw [value]
  by_cases isClear : byte.toNat = clear
  · simp [← isClear]
  · simp [isClear, ← oneOf.resolve_left isClear]

/-! ## Tags in their bands -/

theorem toList_eq (tag : Chonkle) :
    tag.toList =
      [tag.get 0, tag.get 1, tag.get 2, tag.get 3, tag.get 4, tag.get 5,
        tag.get 6, tag.get 7, tag.get 8, tag.get 9, tag.get 10, tag.get 11,
        tag.get 12, tag.get 13, tag.get 14] := by
  apply List.ext_getElem
  · rw [Vector.length_toList]
    rfl
  · intro index inside _
    rw [Vector.length_toList] at inside
    interval_cases index <;> rfl

theorem inBands_iff (tag : Chonkle) :
    InBands tagBands tag.toList ↔
      (42 ≤ (tag.get 0).toNat ∧ (tag.get 0).toNat ≤ 45) ∧
        (200 ≤ (tag.get 1).toNat ∧ (tag.get 1).toNat ≤ 231) ∧
        (5 ≤ (tag.get 2).toNat ∧ (tag.get 2).toNat ≤ 68) ∧
        (78 ≤ (tag.get 4).toNat ∧ (tag.get 4).toNat ≤ 81) ∧
        (96 ≤ (tag.get 5).toNat ∧ (tag.get 5).toNat ≤ 223) ∧
        (100 ≤ (tag.get 6).toNat ∧ (tag.get 6).toNat ≤ 227) ∧
        ((tag.get 7).toNat = 7 ∨ (tag.get 7).toNat = 79) ∧
        ((tag.get 8).toNat = 37 ∨ (tag.get 8).toNat = 83) ∧
        (124 ≤ (tag.get 9).toNat ∧ (tag.get 9).toNat ≤ 131) ∧
        (175 ≤ (tag.get 10).toNat ∧ (tag.get 10).toNat ≤ 182) ∧
        (33 ≤ (tag.get 11).toNat ∧ (tag.get 11).toNat ≤ 96) ∧
        ((tag.get 12).toNat = 97 ∨ (tag.get 12).toNat = 5 ∨
          (tag.get 12).toNat = 43 ∨ (tag.get 12).toNat = 13) ∧
        (210 ≤ (tag.get 13).toNat ∧ (tag.get 13).toNat ≤ 241) ∧
        17 ≤ (tag.get 14).toNat ∧ (tag.get 14).toNat ≤ 144 := by
  rw [toList_eq]
  simp [InBands, tagBands, headerBands, Band.admits, UInt8.le_iff_toNat_le,
    ← UInt8.toNat_inj]

/-- The seventh byte of a tag shows a field whose upper bits the eleventh one
shows as well. -/
def SharesField (tag : Chonkle) : Prop :=
  ((tag.get 10).toNat : Int) - 175 = (((tag.get 6).toNat : Int) - 100) / 8

/-- The eleventh byte repeats three bits of the seventh. -/
theorem sharesField_scatter (hash : UInt64) : SharesField (scatter hash) := by
  have seventh : ((scatter hash).get 6).toNat = field hash 10 6 + 100 :=
    toNat_scatter hash 6
  have eleventh : ((scatter hash).get 10).toNat = field hash 13 3 + 175 :=
    toNat_scatter hash 10
  have upper : field hash 13 3 = field hash 10 6 / 8 :=
    field_add_low hash 10 3 3
  rw [SharesField, seventh, eleventh, upper]
  omega

/-! ## From a tag back to a hash -/

/-- The field that gives a value of the one cell with four values. -/
def choiceIndex (value : Nat) : Nat :=
  if value = 97 then 0
  else if value = 5 then 1
  else if value = 43 then 2
  else 3

/-- The fields of a hash whose tag is a given one, lowest first, with zeros in
the three hidden bits. -/
def segmentsOf (tag : Chonkle) : List Segment :=
  [.low 8 (tag.get 3).toNat,
    .low 2 (choiceIndex (tag.get 12).toNat),
    .low 6 ((tag.get 6).toNat - 100),
    .low 2 ((tag.get 4).toNat - 78),
    .low 6 ((tag.get 2).toNat - 5),
    .low 5 ((tag.get 1).toNat - 200),
    .low 3 0,
    .low 7 ((tag.get 5).toNat - 96),
    .low 1 (if (tag.get 8).toNat = 37 then 0 else 1),
    .low 3 ((tag.get 9).toNat - 124),
    .low 5 ((tag.get 13).toNat - 210),
    .low 6 ((tag.get 11).toNat - 33),
    .low 2 ((tag.get 0).toNat - 42),
    .low 1 (if (tag.get 7).toNat = 79 then 0 else 1),
    .low 7 ((tag.get 14).toNat - 17)]

theorem ofNat_choice_choiceIndex
    {hash : UInt64} {byte : UInt8} {low : Nat}
    (value : field hash low 2 = choiceIndex byte.toNat % 2 ^ 2)
    (oneOf :
      byte.toNat = 97 ∨ byte.toNat = 5 ∨ byte.toNat = 43 ∨ byte.toNat = 13) :
    UInt8.ofNat (choice (field hash low 2)) = byte := by
  apply UInt8.toNat_inj.mp
  rw [value]
  rcases oneOf with same | same | same | same <;> rw [same] <;> rfl

theorem seventh_le_of_shared_field
    {seventh eleventh : Nat} (atMost : eleventh ≤ 182)
    (shares : (eleventh : Int) - 175 = ((seventh : Int) - 100) / 8) :
    seventh ≤ 163 := by
  omega

theorem field_of_shared_field
    {hash : UInt64} {seventh eleventh : Nat}
    (value : field hash 10 6 = (seventh - 100) % 2 ^ 6)
    (atLeast : 100 ≤ seventh) (range : 175 ≤ eleventh ∧ eleventh ≤ 182)
    (shares : (eleventh : Int) - 175 = ((seventh : Int) - 100) / 8) :
    field hash 13 3 = (eleventh - 175) % 2 ^ 3 := by
  have upper : field hash 13 3 = field hash 10 6 / 8 :=
    field_add_low hash 10 3 3
  rw [upper, value]
  omega

/-- A tag in its bands that shares its field comes from the hash that is packed
from its fields. -/
theorem scatter_segmentsOf
    {tag : Chonkle} (inBands : InBands tagBands tag.toList)
    (shares : SharesField tag) :
    scatter (Segment.hash (segmentsOf tag)) = tag := by
  have fits : Segment.span (segmentsOf tag) ≤ 64 := by
    simp [segmentsOf, Segment.span, Segment.low]
  have fields := Segment.lieIn_hash fits
  generalize Segment.hash (segmentsOf tag) = hash at fields ⊢
  simp only [segmentsOf, Segment.LieIn, Segment.low, Nat.reduceAdd,
    and_true] at fields
  obtain ⟨f0, f8, f10, f16, f18, f24, -, f32, f39, f40, f43, f48, f54, f56,
    f57⟩ := fields
  obtain ⟨b0, b1, b2, b4, b5, b6, b7, b8, b9, b10, b11, b12, b13, b14⟩ :=
    (inBands_iff tag).mp inBands
  unfold SharesField at shares
  have f13 := field_of_shared_field f10 b6.1 b10 shares
  have low6 := And.intro b6.1 (seventh_le_of_shared_field b10.2 shares)
  rw [← Vector.toList_inj, toList_scatter, toList_eq tag,
    ofNat_field_add f54 b0 (by decide), ofNat_field_add f24 b1 (by decide),
    ofNat_field_add f18 b2 (by decide), f0,
    Nat.mod_eq_of_lt (UInt8.toNat_lt _), UInt8.ofNat_toNat,
    ofNat_field_add f16 b4 (by decide), ofNat_field_add f32 b5 (by decide),
    ofNat_field_add f10 low6 (by decide), ofNat_ite_field f56 b7.symm,
    ofNat_ite_field f39 b8, ofNat_field_add f40 b9 (by decide),
    ofNat_field_add f13 b10 (by decide), ofNat_field_add f48 b11 (by decide),
    ofNat_choice_choiceIndex f8 b12, ofNat_field_add f43 b13 (by decide),
    ofNat_field_add f57 b14 (by decide)]

/-- The tags of all hashes are the strings that lie in their bands and whose
seventh and eleventh bytes agree on the field they share. -/
theorem exists_scatter_eq_iff {tag : Chonkle} :
    (∃ hash, scatter hash = tag) ↔
      InBands tagBands tag.toList ∧ SharesField tag := by
  constructor
  · rintro ⟨hash, rfl⟩
    exact ⟨inBands_scatter hash, sharesField_scatter hash⟩
  · rintro ⟨inBands, shares⟩
    exact ⟨_, scatter_segmentsOf inBands shares⟩

end RelayFrame.Chonkle

namespace RelayFrame.Packet

open Chonkle

theorem exists_scatter_of_accepts
    {route : Route} {magic packet : Bytes}
    (accepted : route.accepts magic packet = true) :
    ∃ hash, chonkleBytes packet = (scatter hash).toList :=
  ⟨_, ((accepts_iff route magic packet).mp accepted).2.1⟩

theorem exists_scatter_of_stamp
    {route : Route} {magic packet stamped : Bytes}
    (result : route.stamp magic packet = .ok stamped) :
    ∃ hash, chonkleBytes stamped = (scatter hash).toList := by
  obtain ⟨long, -, rfl⟩ := stamp_eq_ok_iff.mp result
  obtain ⟨type, chonkle, body, pittle, rfl⟩ :=
    exists_assemble_of_minimumLength_le long
  rw [imprint_assemble, genuine, chonkleBytes_assemble]
  exact ⟨_, rfl⟩

/-- No cell of a tag is too large for its byte, and fifteen bytes are the tag
of some hash exactly when each lies in its band and the eleventh shows the
upper bits of what the seventh shows.  Where these two bytes of a packet do not
agree, no route stamps it so and none lets it in. -/
theorem tags_are_the_strings_in_bands_that_share_a_field :
    (∀ (hash : UInt64) (index : Fin 15),
      (cells hash).get index < 256 ∧
        ((scatter hash).get index).toNat = (cells hash).get index) ∧
      (∀ tag : Chonkle,
        (∃ hash, scatter hash = tag) ↔
          InBands headerBands.tail tag.toList ∧
            ((tag.get 10).toNat : Int) - 175 =
              (((tag.get 6).toNat : Int) - 100) / 8) ∧
      ∀ (packet : Bytes) (tag : Chonkle),
        chonkleBytes packet = tag.toList →
        ((tag.get 10).toNat : Int) - 175 ≠
            (((tag.get 6).toNat : Int) - 100) / 8 →
          ∀ (route : Route) (magic : Bytes),
            route.accepts magic packet = false ∧
              ∀ other, route.stamp magic other ≠ .ok packet := by
  refine ⟨fun hash index => ?_, fun tag => exists_scatter_eq_iff, ?_⟩
  · rw [← toNat_scatter]
    exact ⟨UInt8.toNat_lt _, rfl⟩
  · intro packet tag bytes different route magic
    have noHash (hash : UInt64) :
        chonkleBytes packet ≠ (scatter hash).toList := by
      intro same
      rw [bytes, Vector.toList_inj] at same
      exact different (same ▸ sharesField_scatter hash)
    constructor
    · by_contra accepted
      obtain ⟨hash, same⟩ :=
        exists_scatter_of_accepts (Bool.not_eq_false _ ▸ accepted)
      exact noHash hash same
    · intro other stamped
      obtain ⟨hash, same⟩ := exists_scatter_of_stamp stamped
      exact noHash hash same

/-- All header bytes lie in their bands, and yet nobody stamps this packet. -/
theorem plausible_header_is_never_stamped :
    let packet : Bytes :=
      [0x01, 0x2a, 0xc8, 0x05, 0x00, 0x4e, 0x60, 0xa3, 0x4f, 0x25, 0x7c, 0xaf,
        0x21, 0x61, 0xd2, 0x11, 0x00, 0x00]
    hasPlausibleHeader packet = true ∧
      ∀ (route : Route) (magic : Bytes),
        route.accepts magic packet = false ∧
          ∀ other, route.stamp magic other ≠ .ok packet := by
  intro packet
  let tag : Chonkle :=
    #v[0x2a, 0xc8, 0x05, 0x00, 0x4e, 0x60, 0xa3, 0x4f, 0x25, 0x7c, 0xaf, 0x21,
      0x61, 0xd2, 0x11]
  have never := tags_are_the_strings_in_bands_that_share_a_field.2.2
  exact ⟨by decide, never packet tag (by decide) (by decide)⟩

end RelayFrame.Packet
