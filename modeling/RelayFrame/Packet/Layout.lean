import RelayFrame.Tag.Chonkle
import RelayFrame.Tag.Pittle

/-!
# Packet layout

A packet is a type byte, a Chonkle, a payload of any length and a Pittle.  The
upper layers own the type byte; here only the range of its values is fixed.
-/

namespace RelayFrame.Packet

def chonkleOffset : Nat := 1

def payloadOffset : Nat := chonkleOffset + Chonkle.size

def minimumLength : Nat := payloadOffset + Pittle.size

/-- The number of lengths that the tags can cover. -/
def lengthBound : Nat := 0x100000000

def typeMinimum : UInt8 := 0x01

def typeMaximum : UInt8 := 0x63

def isType (byte : UInt8) : Bool :=
  typeMinimum ≤ byte && byte ≤ typeMaximum

def pittleOffset (packet : Bytes) : Nat :=
  packet.length - Pittle.size

def chonkleBytes (packet : Bytes) : Bytes :=
  (packet.drop chonkleOffset).take Chonkle.size

def pittleBytes (packet : Bytes) : Bytes :=
  packet.drop (pittleOffset packet)

/-- The bytes between the tags, if the packet is long enough for tags. -/
def payload? (packet : Bytes) : Option Bytes :=
  if packet.length < minimumLength then
    none
  else
    some ((packet.take (pittleOffset packet)).drop payloadOffset)

end RelayFrame.Packet
