import RelayFrame.Packet.Stamp

/-!
# Admission

Two checks decide whether a packet is let in.  The first needs no secret: each
of the sixteen bytes before the payload has to lie in its band, which for the
fifteen tag bytes is what Chonkle can produce there.  The second knows the
magic and the route and compares both tags byte for byte.  Each check reports
the first thing that is wrong, or nothing.
-/

namespace RelayFrame.Packet

/-! ## The header -/

/-- What one byte of the header may hold. -/
inductive Band where
  | any
  | between (low high : UInt8)
  | oneOf (values : List UInt8)
deriving DecidableEq, Repr

def Band.admits : Band → UInt8 → Bool
  | any, _ => true
  | between low high, byte => low ≤ byte && byte ≤ high
  | oneOf values, byte => values.contains byte

/-- The bands of the type byte and of the fifteen bytes after it. -/
def headerBands : List Band :=
  [.between typeMinimum typeMaximum,
    .between 0x2a 0x2d,
    .between 0xc8 0xe7,
    .between 0x05 0x44,
    .any,
    .between 0x4e 0x51,
    .between 0x60 0xdf,
    .between 0x64 0xe3,
    .oneOf [0x07, 0x4f],
    .oneOf [0x25, 0x53],
    .between 0x7c 0x83,
    .between 0xaf 0xb6,
    .between 0x21 0x60,
    .oneOf [0x61, 0x05, 0x2b, 0x0d],
    .between 0xd2 0xf1,
    .between 0x11 0x90]

/-- What is wrong with a header.  Of the bytes outside their bands the first is
named, with its place. -/
inductive HeaderFault where
  | tooSmall (length : Nat)
  | outOfBand (index : Nat) (byte : UInt8)
deriving DecidableEq, Repr

/-- The first of the bytes outside its band; they stand from `index` on. -/
def firstOutOfBand? (index : Nat) : List Band → Bytes → Option HeaderFault
  | band :: bands, byte :: bytes =>
      if band.admits byte then
        firstOutOfBand? (index + 1) bands bytes
      else
        some (.outOfBand index byte)
  | _, _ => none

def headerFault? (packet : Bytes) : Option HeaderFault :=
  if packet.length < minimumLength then
    some (.tooSmall packet.length)
  else
    firstOutOfBand? 0 headerBands packet

def hasPlausibleHeader (packet : Bytes) : Bool :=
  (headerFault? packet).isNone

/-! ## The tags -/

inductive TagFault where
  | tooSmall (length : Nat)
  | tooLarge (length : Nat)
  | chonkle
  | pittle
deriving DecidableEq, Repr

end RelayFrame.Packet

namespace RelayFrame.Route

open Packet

def tagFault? (route : Route) (magic packet : Bytes) : Option TagFault :=
  let length := UInt32.ofNat packet.length
  if packet.length < minimumLength then
    some (.tooSmall packet.length)
  else if lengthBound ≤ packet.length then
    some (.tooLarge packet.length)
  else if chonkleBytes packet ≠ (route.chonkle magic length).toList then
    some .chonkle
  else if pittleBytes packet ≠ (route.pittle length).toList then
    some .pittle
  else
    none

/-- Whether a packet carries both tags of this route. -/
def accepts (route : Route) (magic packet : Bytes) : Bool :=
  (route.tagFault? magic packet).isNone

end RelayFrame.Route
