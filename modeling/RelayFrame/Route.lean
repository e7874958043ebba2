import RelayFrame.Bytes
import RelayFrame.Net.Address
import RelayFrame.Tag.Chonkle
import RelayFrame.Tag.Pittle

/-!
# Routes

A packet travels from a sender to a receiver.  What the tags see of each of
them is its host in network order and its port, low byte first; an IPv4 host
and the IPv6 host that stands for it are the same party.  Both tags cover the
route and the length of the whole packet, and Chonkle also covers the magic
that sender and receiver share.
-/

namespace RelayFrame

structure Party where
  host : Bytes
  port : UInt16
deriving DecidableEq, Repr

namespace Party

def ofAddress (address : Address) : Party :=
  ⟨address.canonical.hostOctets, address.port⟩

/-- The bytes of a party that the tags cover. -/
def message (party : Party) : Bytes :=
  party.host ++ littleEndian 2 party.port.toNat

end Party

structure Route where
  sender : Party
  receiver : Party
deriving DecidableEq, Repr

namespace Route

def between (sender receiver : Address) : Route :=
  ⟨Party.ofAddress sender, Party.ofAddress receiver⟩

/-- The way back. -/
def reversed (route : Route) : Route :=
  ⟨route.receiver, route.sender⟩

/-- The bytes that both tags cover, for a packet of the given length. -/
def message (route : Route) (length : UInt32) : Bytes :=
  route.sender.message ++ route.receiver.message ++
    littleEndian 4 length.toNat

def chonkle (route : Route) (magic : Bytes) (length : UInt32) : Chonkle :=
  Chonkle.ofMessage (magic ++ route.message length)

def pittle (route : Route) (length : UInt32) : Pittle :=
  Pittle.ofMessage (route.message length)

end Route

end RelayFrame
