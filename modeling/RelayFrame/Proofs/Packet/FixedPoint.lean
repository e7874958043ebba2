import RelayFrame.Proofs.Packet.Stamping

/-!
# Packets that stamping keeps

The second check lets in the packets that stamping would leave as they are.
It looks at the bytes of the tags and at the length, so a packet of the same
length is let in too exactly when it has the same bytes in all those places,
whatever its type and its payload are.
-/

namespace RelayFrame

/-! ## Bytes in their places -/

theorem drop_eq_drop_iff {first second : Bytes} {start : Nat} :
    first.drop start = second.drop start ↔
      ∀ index, start ≤ index → first[index]? = second[index]? := by
  constructor
  · intro same index after
    obtain ⟨shift, rfl⟩ := Nat.exists_eq_add_of_le after
    rw [← List.getElem?_drop, ← List.getElem?_drop, same]
  · intro agree
    apply List.ext_getElem?
    intro shift
    rw [List.getElem?_drop, List.getElem?_drop]
    exact agree _ (Nat.le_add_right start shift)

theorem take_drop_eq_take_drop_iff
    {first second : Bytes} {start count : Nat} :
    (first.drop start).take count = (second.drop start).take count ↔
      ∀ index, start ≤ index → index < start + count →
        first[index]? = second[index]? := by
  constructor
  · intro same index after before
    obtain ⟨shift, rfl⟩ := Nat.exists_eq_add_of_le after
    have taken := congrArg (·[shift]?) same
    have inside : shift < count := by omega
    simpa [List.getElem?_take, List.getElem?_drop, inside] using taken
  · intro agree
    apply List.ext_getElem?
    intro shift
    rw [List.getElem?_take, List.getElem?_take, List.getElem?_drop,
      List.getElem?_drop]
    split
    · exact agree _ (Nat.le_add_right start shift) (by omega)
    · rfl

namespace Packet

/-- Whether a byte of a packet of the given length belongs to one of its
tags. -/
def IsTagIndex (length index : Nat) : Prop :=
  (1 ≤ index ∧ index < 16) ∨ (length - 2 ≤ index ∧ index < length)

/-- Packets of one length have the same tags when they agree wherever a tag
stands. -/
theorem tagBytes_eq_iff
    {packet other : Bytes} (sameLength : other.length = packet.length) :
    chonkleBytes other = chonkleBytes packet ∧
        pittleBytes other = pittleBytes packet ↔
      ∀ index, IsTagIndex packet.length index →
        other[index]? = packet[index]? := by
  have pittlePlace : pittleOffset other = pittleOffset packet := by
    rw [pittleOffset, pittleOffset, sameLength]
  rw [chonkleBytes, chonkleBytes, take_drop_eq_take_drop_iff, pittleBytes,
    pittleBytes, pittlePlace, drop_eq_drop_iff]
  constructor
  · rintro ⟨chonkle, pittle⟩ index (⟨after, before⟩ | ⟨after, -⟩)
    · exact chonkle index after before
    · exact pittle index after
  · intro agree
    constructor
    · intro index after before
      exact agree index (Or.inl ⟨after, before⟩)
    · intro index after
      rcases Nat.lt_or_ge index packet.length with inside | outside
      · exact agree index (Or.inr ⟨after, inside⟩)
      · rw [List.getElem?_eq_none outside,
          List.getElem?_eq_none (sameLength ▸ outside)]

/-- For one length there is one pair of tags that is let in. -/
theorem accepts_iff_tagBytes_eq
    {route : Route} {magic packet other : Bytes}
    (accepted : route.accepts magic packet = true)
    (sameLength : other.length = packet.length) :
    route.accepts magic other = true ↔
      chonkleBytes other = chonkleBytes packet ∧
        pittleBytes other = pittleBytes packet := by
  obtain ⟨lengthFits, chonkle, pittle⟩ := (accepts_iff _ _ _).mp accepted
  rw [accepts_iff, sameLength, chonkle, pittle]
  exact and_iff_right lengthFits

/-- The second check lets in the packets of at least the minimum length that
stamping in place succeeds on and leaves as they are.  A shorter packet is
refused by both, and stays as it is.  A packet of the length of one that was
let in is let in exactly when it has the same bytes in the places of the
tags. -/
theorem accepts_iff_stamping_keeps (route : Route) (magic : Bytes) :
    (∀ packet : Bytes,
      route.accepts magic packet = true ↔
        18 ≤ packet.length ∧
          route.stampInPlace magic packet = (packet, none)) ∧
      (∀ packet : Bytes, packet.length < 18 →
        route.accepts magic packet = false ∧
          route.stampInPlace magic packet =
            (packet, some (.tooSmall packet.length))) ∧
      ∀ packet other : Bytes,
        route.accepts magic packet = true →
        other.length = packet.length →
          (route.accepts magic other = true ↔
            ∀ index, IsTagIndex packet.length index →
              other[index]? = packet[index]?) := by
  refine ⟨?_, ?_, ?_⟩
  · intro packet
    rw [Route.stampInPlace_eq_iff, stamp_eq_ok_iff, accepts_iff_imprint_eq]
    exact (and_iff_right_of_imp And.left).symm
  · intro packet short
    refine ⟨?_, route.stampInPlace_of_short magic short⟩
    rw [← Bool.not_eq_true, accepts_iff]
    exact fun accepted => absurd accepted.1.1 (Nat.not_le.mpr short)
  · intro packet other accepted sameLength
    rw [accepts_iff_tagBytes_eq accepted sameLength,
      tagBytes_eq_iff sameLength]

/-- A packet with one payload byte: its type and its payload may change, its
tags may not. -/
theorem genuine_packet_may_change_outside_its_tags :
    let route : Route := ⟨⟨[1, 2, 3, 4], 1000⟩, ⟨[5, 6, 7, 8], 2000⟩⟩
    let packet := genuine route [9, 8, 7] 0x01 [0xaa]
    route.accepts [9, 8, 7] packet = true ∧
      route.accepts [9, 8, 7] ((packet.set 0 0xff).set 16 0xbb) = true ∧
      route.accepts [9, 8, 7] ((packet.set 1 0).set 18 0) = false ∧
      route.stampInPlace [9, 8, 7] (packet.take 17) =
        (packet.take 17, some (.tooSmall 17)) := by
  intro route packet
  obtain ⟨-, short, changed⟩ := accepts_iff_stamping_keeps route [9, 8, 7]
  have length : packet.length = 19 := length_assemble _ _ _ _
  have accepted : route.accepts [9, 8, 7] packet = true :=
    (accepts_iff_exists_genuine _ _ _).mpr ⟨0x01, [0xaa], by decide, rfl⟩
  refine ⟨accepted, ?_, ?_, ?_⟩
  · apply (changed packet _ accepted (by simp)).mpr
    intro index inTags
    rw [IsTagIndex, length] at inTags
    rw [List.getElem?_set_ne (by omega), List.getElem?_set_ne (by omega)]
  · rw [← Bool.not_eq_true, changed packet _ accepted (by simp)]
    intro agree
    have first := agree 1 (Or.inl (by decide))
    revert first
    decide +kernel
  · have tooShort : (packet.take 17).length < 18 := by
      rw [List.length_take]
      omega
    have taken : (packet.take 17).length = 17 := by
      rw [List.length_take, length]
      rfl
    have refused := (short (packet.take 17) tooShort).2
    rwa [taken] at refused

end Packet

end RelayFrame
