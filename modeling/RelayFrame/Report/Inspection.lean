import RelayFrame.Log.Event
import RelayFrame.Report.Document

/-!
# Inspections

Both admission checks run over one packet, the second only where a route and
its magic are known.  The inspection keeps the verdicts and the log keeps the
reasons.
-/

namespace RelayFrame.Report

/-- What an inspection finds out about a packet. -/
structure Inspection where
  packetLength : Nat
  packetType : Option UInt8
  payloadLength : Option Nat
  basic : Bool
  advanced : Option Bool
deriving DecidableEq, Repr

structure Claim where
  magic : Bytes
  route : Route
deriving DecidableEq, Repr

/-- Inspects a packet, and logs why a check failed and what came out. -/
def inspect (packet : Bytes) (claim : Option Claim) :
    Inspection × List Log.Event :=
  let headerFault := Packet.headerFault? packet
  let tagFault := claim.map fun claim =>
    claim.route.tagFault? claim.magic packet
  let inspection : Inspection :=
    { packetLength := packet.length
      packetType := packet.head?
      payloadLength := (Packet.payload? packet).map List.length
      basic := headerFault.isNone
      advanced := tagFault.map Option.isNone }
  let events :=
    headerFault.toList.map Log.Event.headerFault ++
      tagFault.join.toList.map Log.Event.tagFault ++
      [.inspected packet.length inspection.basic inspection.advanced]
  (inspection, events)

namespace Inspection

def accepted (inspection : Inspection) : Bool :=
  inspection.basic && inspection.advanced.getD true

def checkText (passed : Bool) : String :=
  if passed then "pass" else "reject"

def typeText : Option UInt8 → String
  | none => "n/a"
  | some byte => "0x" ++ String.ofList (Numeral.hexByte byte)

def payloadText : Option Nat → String
  | none => "n/a"
  | some length => length.repr ++ " bytes"

def advancedText : Option Bool → String
  | none => "skipped (no route)"
  | some passed => checkText passed

def verdictText (accepted : Bool) : String :=
  if accepted then "accept" else "reject"

/-- The report for people. -/
def pretty (inspection : Inspection) : String :=
  "length: " ++ inspection.packetLength.repr ++ " bytes\ntype: " ++
    typeText inspection.packetType ++ "\npayload: " ++
    payloadText inspection.payloadLength ++ "\nbasic filter: " ++
    checkText inspection.basic ++ "\nadvanced filter: " ++
    advancedText inspection.advanced ++ "\nverdict: " ++
    verdictText inspection.accepted

def optional {α : Type} (scalar : α → Scalar) : Option α → Scalar
  | none => .nothing
  | some value => scalar value

def document (inspection : Inspection) : Document :=
  [("packet_len", .number inspection.packetLength),
    ("packet_type",
      optional (fun byte => .number byte.toNat) inspection.packetType),
    ("payload_len", optional .number inspection.payloadLength),
    ("basic", .truth inspection.basic),
    ("advanced", optional .truth inspection.advanced)]

def json (inspection : Inspection) : String :=
  inspection.document.text

end Inspection

end RelayFrame.Report
