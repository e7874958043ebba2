import RelayFrame.Packet.Layout
import RelayFrame.Route

/-!
# Stamping

To stamp a packet is to lay both tags of a route over their places in it.  The
tags cover the length of the packet, so it must be one that four bytes can
tell, and there must be room for both tags.  The type byte and the payload
stay as they are.
-/

namespace RelayFrame

inductive StampError where
  | tooSmall (length : Nat)
  | tooLarge (length : Nat)
deriving DecidableEq, Repr

def StampError.message : StampError → String
  | tooSmall length =>
      "packet of " ++ length.repr ++
        " bytes is too small to stamp, need at least " ++
        Packet.minimumLength.repr
  | tooLarge length =>
      "packet of " ++ length.repr ++ " bytes is too large to stamp"

/-- A stamper changes a packet in place: what it has done before it is refused
stays done. -/
abbrev Stamper := ExceptT StampError (StateM Bytes)

def Stamper.lay (offset : Nat) (patch : Bytes) : Stamper Unit :=
  modify fun packet => splice packet offset patch

namespace Route

/-- Stamps a packet where it stands.  Its length is looked at first, so that
nothing has changed yet when it is refused. -/
def stamping (route : Route) (magic : Bytes) : Stamper Unit := do
  let packet ← get
  if packet.length < Packet.minimumLength then
    throw (.tooSmall packet.length)
  else if Packet.lengthBound ≤ packet.length then
    throw (.tooLarge packet.length)
  else
    let length := UInt32.ofNat packet.length
    Stamper.lay Packet.chonkleOffset (route.chonkle magic length).toList
    Stamper.lay (Packet.pittleOffset packet) (route.pittle length).toList

/-- The packet after an attempt to stamp it, and why the attempt was refused
if it was. -/
def stampInPlace (route : Route) (magic packet : Bytes) :
    Bytes × Option StampError :=
  match (route.stamping magic).run.run packet with
  | (.ok _, later) => (later, none)
  | (.error error, later) => (later, some error)

def stamp (route : Route) (magic packet : Bytes) : Except StampError Bytes :=
  match route.stampInPlace magic packet with
  | (stamped, none) => .ok stamped
  | (_, some error) => .error error

end Route

end RelayFrame
