import RelayFrame.Proofs.Bytes.HexText
import RelayFrame.Proofs.Packet.Duality
import RelayFrame.Report.Tags

/-!
# Tag reports and acceptance

A tag report is made for a length and knows nothing of packets, while the
second check and the crafting of packets take the length from the packet and
never see text.  All the same the report decides which packets the check lets
in, since no two byte strings share their hexadecimal text.
-/

namespace RelayFrame.Report.Tags

open Packet

/-- The places of the tags in a packet hold what the report tells. -/
def StandIn (tags : Tags) (packet : Bytes) : Prop :=
  Hex.encode ((packet.drop 1).take 15) = tags.chonkle ∧
    Hex.encode (packet.drop (packet.length - 2)) = tags.pittle

instance (tags : Tags) (packet : Bytes) : Decidable (tags.StandIn packet) :=
  inferInstanceAs (Decidable (_ ∧ _))

section Computed

variable (magic : Bytes) (sender receiver : Address)

theorem standIn_compute_iff (packetLength : UInt32) (packet : Bytes) :
    (compute magic sender receiver packetLength).StandIn packet ↔
      chonkleBytes packet =
          ((Route.between sender receiver).chonkle
            magic packetLength).toList ∧
        pittleBytes packet =
          ((Route.between sender receiver).pittle packetLength).toList :=
  and_congr Hex.encode_inj Hex.encode_inj

/-- For packets of a length that both tags fit and can tell, the check and the
report for this length agree. -/
theorem accepts_iff_standIn
    (packet : Bytes) (long : minimumLength ≤ packet.length)
    (fits : packet.length < lengthBound) :
    (Route.between sender receiver).accepts magic packet = true ↔
      (compute magic sender receiver
        (UInt32.ofNat packet.length)).StandIn packet := by
  rw [accepts_iff, standIn_compute_iff]
  exact and_iff_right ⟨long, fits⟩

/-- A genuine packet is one that the check lets in, so the report for its
length tells its tags. -/
theorem standIn_genuine
    (type : UInt8) {body : Bytes}
    (fits : minimumLength + body.length < lengthBound) :
    (compute magic sender receiver (coveredLength body.length)).StandIn
      (genuine (Route.between sender receiver) magic type body) := by
  let packet := genuine (Route.between sender receiver) magic type body
  have length : packet.length = minimumLength + body.length :=
    length_assemble _ _ _ _
  have decided :=
    accepts_iff_standIn magic sender receiver packet (by omega) (by omega)
  rw [length] at decided
  exact decided.mp (accepts_genuine _ magic type fits)

end Computed

/-- The check lets in a packet exactly when the report for its length tells what
its tag bytes are.  Crafting a packet of this length succeeds for every packet
type and every payload that fits the length, and puts the reported tags in
their places. -/
theorem reported_tags_decide_acceptance
    (magic : Bytes) (sender receiver : Address) (packetLength : UInt32)
    (long : 18 ≤ packetLength.toNat) :
    let route := Route.between sender receiver
    let tags := compute magic sender receiver packetLength
    (∀ packet : Bytes, packet.length = packetLength.toNat →
      (route.accepts magic packet = true ↔ tags.StandIn packet)) ∧
      ∀ (type : UInt8) (body : Bytes),
        0x01 ≤ type → type ≤ 0x63 →
        body.length = packetLength.toNat - 18 →
          ∃ packet,
            (Tool.craft type body magic sender receiver).map Prod.fst =
                .ok packet ∧
              packet.length = packetLength.toNat ∧
              tags.StandIn packet := by
  intro route tags
  have longEnough : minimumLength ≤ packetLength.toNat := long
  have small : packetLength.toNat < lengthBound := packetLength.toNat_lt
  constructor
  · intro packet length
    have covered : UInt32.ofNat packet.length = packetLength := by
      rw [length, UInt32.ofNat_toNat]
    have decided :=
      accepts_iff_standIn magic sender receiver packet
        (by omega) (by omega)
    rwa [covered] at decided
  · intro type body above below bodyLength
    have length : minimumLength + body.length = packetLength.toNat := by
      change 18 + body.length = _
      omega
    have fits : minimumLength + body.length < lengthBound := by omega
    have covered : coveredLength body.length = packetLength := by
      rw [coveredLength, length, UInt32.ofNat_toNat]
    have shown := standIn_genuine magic sender receiver type fits
    rw [covered] at shown
    have built :
        build type body magic route = .ok (genuine route magic type body) :=
      build_eq_ok_iff.mpr ⟨(isType_iff type).mpr ⟨above, below⟩, fits, rfl⟩
    exact
      ⟨_, Tool.map_fst_craft_eq_ok_iff.mpr built,
        (length_assemble _ _ _ _).trans length, shown⟩

/-- A packet with the tags that the report tells, which is let in for its route
only: back from the receiver the Chonkle is another, though the Pittle is not.
-/
theorem packet_of_twenty_bytes_is_decided_by_two_reports :
    let magic : Bytes := [9, 8, 7, 6, 5, 4, 3, 2]
    let sender := Address.ipv4 ⟨1, 2, 3, 4⟩ 1000
    let receiver := Address.ipv4 ⟨5, 6, 7, 8⟩ 2000
    let tags := compute magic sender receiver 20
    let tagsBack := compute magic receiver sender 20
    let packet : Bytes :=
      [0x01, 0x2a, 0xe1, 0x20, 0x71, 0x4e, 0xb0, 0x6d, 0x07, 0x25, 0x81,
        0xb0, 0x3d, 0x2b, 0xe1, 0x58, 0xaa, 0xbb, 0x3b, 0xb5]
    (tags.chonkle = "2ae120714eb06d072581b03d2be158" ∧
        tags.pittle = "3bb5" ∧ tagsBack.pittle = "3bb5") ∧
      (Route.between sender receiver).accepts magic packet = true ∧
      ¬ (Route.between receiver sender).accepts magic packet = true ∧
      ∃ built,
        (Tool.craft 0x63 [0xaa, 0xbb] magic receiver sender).map Prod.fst =
            .ok built ∧
          built.length = 20 ∧
          tagsBack.StandIn built := by
  intro magic sender receiver tags tagsBack packet
  obtain ⟨decided, -⟩ :=
    reported_tags_decide_acceptance magic sender receiver 20 (by decide)
  obtain ⟨decidedBack, builtBack⟩ :=
    reported_tags_decide_acceptance magic receiver sender 20 (by decide)
  have shown : tags.StandIn packet := by decide +kernel
  have notShown : ¬ tagsBack.StandIn packet := by decide +kernel
  exact
    ⟨by decide +kernel, (decided packet rfl).mpr shown,
      fun accepted => notShown ((decidedBack packet rfl).mp accepted),
      builtBack 0x63 [0xaa, 0xbb] (by decide) (by decide) rfl⟩

end RelayFrame.Report.Tags
