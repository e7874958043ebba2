import RelayFrame.Net.Slot

/-!
# Addresses that have travelled

A slot carries an address in canonical form and nothing of its flow label and
its scope.  What comes out at the other end is therefore the canonical form
with both of them zero.
-/

namespace RelayFrame

namespace Address

def withoutExtras : Address → Address
  | ipv6 host port _ _ => ipv6 host port 0 0
  | address => address

/-- The address as it comes out of its slot. -/
def travelled (address : Address) : Address :=
  address.canonical.withoutExtras

end Address

namespace Slot

theorem ofBytes_toList (slot : Slot) : ofBytes slot.toList = slot := by
  apply Vector.ext
  intro index inside
  simp [ofBytes, List.getD_eq_getElem?_getD]

/-- A slot holds all of an address but its flow label and its scope. -/
theorem decode_ofCanonical (address : Address) :
    decode (ofCanonical address) = address.withoutExtras := by
  cases address with
  | absent => rfl
  | ipv4 host port =>
      have samePort := groupOf_highOctet_lowOctet port
      simp [decode, ofCanonical, Address.withoutExtras, samePort]
  | ipv6 host port flow scope =>
      have sameGroup := groupOf_highOctet_lowOctet
      simp [decode, ofCanonical, Address.withoutExtras, ipv4Family, ipv6Family,
        sameGroup]

theorem decode_encode (address : Address) :
    decode (encode address) = address.travelled :=
  decode_ofCanonical address.canonical

theorem withoutExtras_decode (slot : Slot) :
    (decode slot).withoutExtras = decode slot := by
  rw [decode]
  split
  · rfl
  · split <;> rfl

/-- What comes out of a slot loses nothing but its family on a second way. -/
theorem travelled_decode (slot : Slot) :
    (decode slot).travelled = (decode slot).canonical := by
  have bare := withoutExtras_decode slot
  generalize decode slot = address at bare
  cases address with
  | absent => rfl
  | ipv4 host port => rfl
  | ipv6 host port flow scope =>
      rw [← bare, Address.travelled, Address.withoutExtras, Address.canonical]
      cases host.mapped? <;> rfl

end Slot

end RelayFrame
