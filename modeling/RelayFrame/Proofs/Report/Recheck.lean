import RelayFrame.Proofs.Bytes.HexText
import RelayFrame.Proofs.Net.AddressText
import RelayFrame.Report.Tags
import RelayFrame.Tool.Failure

/-!
# Tag reports checked from their text

A tag report tells in text all that its tags were computed from.  Reading that
text gives the magic and both addresses but for their flow labels, which the
tags do not cover, so that computing the report again gives the same report.
-/

namespace RelayFrame

/-! ## What flow labels have no part in -/

theorem Address.text_withoutFlow (address : Address) :
    address.withoutFlow.text = address.text := by
  cases address <;> rfl

theorem Party.ofAddress_withoutFlow (address : Address) :
    ofAddress address.withoutFlow = ofAddress address := by
  cases address with
  | absent => rfl
  | ipv4 host port => rfl
  | ipv6 host port flow scope =>
      rw [Address.withoutFlow, ofAddress, ofAddress, Address.canonical,
        Address.canonical]
      cases host.mapped? <;> rfl

/-! ## The magic -/

theorem Tool.readMagic_encode (magic : Bytes) :
    readMagic (Hex.encode magic) = .ok magic := by
  have solid : Text.IsSolid (Hex.digits magic) := fun _ member =>
    Text.isBlank_eq_false_of_isDigit (Hex.isDigit_of_mem_digits member)
  have trimmed : Text.trim (Hex.encode magic) = Hex.encode magic := by
    rw [Text.trim, Hex.encode, String.toList_ofList,
      Text.trimmed_of_isSolid solid]
  rw [readMagic, trimmed, Hex.decode_encode]
  rfl

/-! ## Whole reports -/

namespace Report.Tags

/-- The tags do not cover flow labels, and the report does not show them. -/
theorem compute_withoutFlow
    (magic : Bytes) (sender receiver : Address) (packetLength : UInt32) :
    compute magic sender.withoutFlow receiver.withoutFlow packetLength =
      compute magic sender receiver packetLength := by
  simp only [compute, Route.between, Party.ofAddress_withoutFlow,
    Address.text_withoutFlow]

/-- The magic and the addresses in a tag report can be read, and the report
computed from what was read is the same report. -/
theorem tag_report_is_computed_again_from_its_text
    (magic : Bytes) {sender receiver : Address} (packetLength : UInt32)
    (senderPresent : sender ≠ .absent)
    (receiverPresent : receiver ≠ .absent) :
    let tags := compute magic sender receiver packetLength
    Tool.readMagic tags.magic = .ok magic ∧
      ∃ readSender readReceiver,
        Address.parse tags.sender = .ok readSender ∧
          Address.parse tags.receiver = .ok readReceiver ∧
          compute magic readSender readReceiver tags.packetLength = tags := by
  intro tags
  exact
    ⟨Tool.readMagic_encode magic, sender.withoutFlow, receiver.withoutFlow,
      Address.parse_text senderPresent, Address.parse_text receiverPresent,
      compute_withoutFlow magic sender receiver packetLength⟩

/-- A sender with a flow label, a scope and a host that stands for an IPv4
host. -/
theorem scoped_route_is_computed_again_from_its_text :
    let sender : Address :=
      .ipv6 ⟨0, 0, 0, 0, 0, 0xffff, 0x0a01, 0x0203⟩ 5000 7 3
    let receiver : Address := .ipv6 ⟨0x2001, 0xdb8, 0, 0, 0, 0, 0, 1⟩ 53 9 0
    let tags := compute [0x00, 0xab] sender receiver 18
    (tags.magic = "00ab" ∧ tags.sender = "[::ffff:10.1.2.3%3]:5000" ∧
        tags.receiver = "[2001:db8::1]:53") ∧
      Tool.readMagic tags.magic = .ok [0x00, 0xab] ∧
      ∃ readSender readReceiver,
        Address.parse tags.sender = .ok readSender ∧
          Address.parse tags.receiver = .ok readReceiver ∧
          compute [0x00, 0xab] readSender readReceiver 18 = tags := by
  intro sender receiver tags
  exact
    ⟨by decide +kernel,
      tag_report_is_computed_again_from_its_text [0x00, 0xab] 18 nofun nofun⟩

end Report.Tags

end RelayFrame
