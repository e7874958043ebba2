import RelayFrame.Bytes

/-!
# Pittle

Pittle is a checksum that needs no secret: the bytes of a message are added up
in sixteen bits, and the two bytes of the sum are folded into a pair of odd
bytes of which the second follows from the first.
-/

namespace RelayFrame

abbrev Pittle := Vector UInt8 2

namespace Pittle

def size : Nat := 2

def checksum (message : Bytes) : UInt16 :=
  message.foldl (fun total byte => total + byte.toUInt16) 0

/-- The first byte of the tag of a sum. -/
def first (sum : UInt16) : UInt8 :=
  (1 : UInt8) ||| (sum.toUInt8 ^^^ (sum >>> 8).toUInt8 ^^^ 193)

/-- The second byte of a tag, which its first byte decides. -/
def second (first : UInt8) : UInt8 :=
  (1 : UInt8) ||| ((255 - first) ^^^ 113)

/-- The tag of a sum. -/
def fold (sum : UInt16) : Pittle :=
  #v[first sum, second (first sum)]

def ofMessage (message : Bytes) : Pittle :=
  fold (checksum message)

end Pittle

end RelayFrame
