import RelayFrame.Text.Numeral

/-!
# IPv4 hosts

Four octets, written in decimal between dots.  A written octet has no leading
zero, so every host has one text.
-/

namespace RelayFrame

/-- An IPv4 host, by its octets in the order they are written. -/
structure Ipv4 where
  a : UInt8
  b : UInt8
  c : UInt8
  d : UInt8
deriving DecidableEq, Repr

namespace Ipv4

open Text

def octets (host : Ipv4) : List UInt8 :=
  [host.a, host.b, host.c, host.d]

def text (host : Ipv4) : List Char :=
  Numeral.decimal host.a.toNat ++ '.' ::
    (Numeral.decimal host.b.toNat ++ '.' ::
      (Numeral.decimal host.c.toNat ++ '.' ::
        Numeral.decimal host.d.toNat))

/-- Whether digits may spell an octet: three of them at most, and a zero only
when it stands alone. -/
def isOctetSpelling : List Char → Bool
  | ['0'] => true
  | '0' :: _ => false
  | digits => digits.length ≤ 3

def scanOctet : Scanner UInt8 := fun text => do
  let (value, rest) ← numeral 10 256 isOctetSpelling text
  return (UInt8.ofNat value, rest)

def scan : Scanner Ipv4 := fun text => do
  let (a, rest) ← scanOctet text
  let (b, rest) ← scanOctet (← after? '.' rest)
  let (c, rest) ← scanOctet (← after? '.' rest)
  let (d, rest) ← scanOctet (← after? '.' rest)
  return (⟨a, b, c, d⟩, rest)

end Ipv4

end RelayFrame
