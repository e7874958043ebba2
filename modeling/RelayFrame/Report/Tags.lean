import RelayFrame.Bytes.Hex
import RelayFrame.Report.Document
import RelayFrame.Route

/-!
# Tag reports

Both tags of a route for packets of one length, with all that they were
computed from, in text.
-/

namespace RelayFrame.Report

/-- The tags of a route and what they were computed from. -/
structure Tags where
  sender : String
  receiver : String
  packetLength : UInt32
  magic : String
  chonkle : String
  pittle : String
deriving DecidableEq, Repr

namespace Tags

def compute (magic : Bytes) (sender receiver : Address)
    (packetLength : UInt32) : Tags :=
  let route := Route.between sender receiver
  { sender := sender.text
    receiver := receiver.text
    packetLength
    magic := Hex.encode magic
    chonkle := Hex.encode (route.chonkle magic packetLength).toList
    pittle := Hex.encode (route.pittle packetLength).toList }

def pretty (tags : Tags) : String :=
  "route: " ++ tags.sender ++ " -> " ++ tags.receiver ++
    " (" ++ tags.packetLength.toNat.repr ++ " bytes)\nmagic: " ++
    tags.magic ++ "\nchonkle: " ++ tags.chonkle ++ "\npittle: " ++
    tags.pittle

def document (tags : Tags) : Document :=
  [("from", .text tags.sender),
    ("to", .text tags.receiver),
    ("packet_len", .number tags.packetLength.toNat),
    ("magic", .text tags.magic),
    ("chonkle", .text tags.chonkle),
    ("pittle", .text tags.pittle)]

def json (tags : Tags) : String :=
  tags.document.text

end Tags

end RelayFrame.Report
