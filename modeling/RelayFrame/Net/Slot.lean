import RelayFrame.Net.Address

/-!
# Address slots

An address travels in nineteen bytes whatever its family, so that it can sit
in a header of fixed layout.  The first byte tells the family, the octets of
the host follow, then the port with its low byte first, and zeros fill the
rest.  An address is folded to its canonical form before it is written; the
flow label and the scope do not travel.  Every slot can be read: a family that
is not known means no address.
-/

namespace RelayFrame

/-- The bytes that carry one address. -/
abbrev Slot := Vector UInt8 19

namespace Slot

def size : Nat := 19

def absentFamily : UInt8 := 0

def ipv4Family : UInt8 := 1

def ipv6Family : UInt8 := 2

/-- The slot that begins a byte string, filled up with zeros if there are too
few bytes. -/
def ofBytes (bytes : List UInt8) : Slot :=
  Vector.ofFn fun index => bytes.getD index 0

def ofCanonical : Address → Slot
  | .absent =>
      #v[absentFamily, 0, 0, 0, 0, 0, 0, 0, 0, 0, 0, 0, 0, 0, 0, 0, 0, 0, 0]
  | .ipv4 host port =>
      #v[ipv4Family, host.a, host.b, host.c, host.d,
        lowOctet port, highOctet port, 0, 0, 0, 0, 0, 0, 0, 0, 0, 0, 0, 0]
  | .ipv6 host port _ _ =>
      #v[ipv6Family,
        highOctet host.a, lowOctet host.a, highOctet host.b, lowOctet host.b,
        highOctet host.c, lowOctet host.c, highOctet host.d, lowOctet host.d,
        highOctet host.e, lowOctet host.e, highOctet host.f, lowOctet host.f,
        highOctet host.g, lowOctet host.g, highOctet host.h, lowOctet host.h,
        lowOctet port, highOctet port]

def encode (address : Address) : Slot :=
  ofCanonical address.canonical

def decode (slot : Slot) : Address :=
  if slot[0] = ipv4Family then
    .ipv4 ⟨slot[1], slot[2], slot[3], slot[4]⟩ (groupOf slot[6] slot[5])
  else if slot[0] = ipv6Family then
    .ipv6
      { a := groupOf slot[1] slot[2]
        b := groupOf slot[3] slot[4]
        c := groupOf slot[5] slot[6]
        d := groupOf slot[7] slot[8]
        e := groupOf slot[9] slot[10]
        f := groupOf slot[11] slot[12]
        g := groupOf slot[13] slot[14]
        h := groupOf slot[15] slot[16] }
      (groupOf slot[18] slot[17]) 0 0
  else
    .absent

end Slot

end RelayFrame
