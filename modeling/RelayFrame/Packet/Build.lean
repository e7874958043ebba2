import RelayFrame.Packet.Stamp
import RelayFrame.Stream.Output

/-!
# Building packets

A packet is written into a buffer of its length, its type and its payload with
zeros where the tags go, and then stamped there for its route.
-/

namespace RelayFrame.Packet

inductive BuildError where
  | badType (byte : UInt8)
  | payloadTooLarge (length : Nat)
deriving DecidableEq, Repr

def BuildError.message : BuildError → String
  | badType byte =>
      "packet type 0x" ++ String.ofList (Numeral.hexByte byte) ++
        " outside 0x" ++ String.ofList (Numeral.hexByte typeMinimum) ++
        "..=0x" ++ String.ofList (Numeral.hexByte typeMaximum)
  | payloadTooLarge length =>
      "payload of " ++ length.repr ++ " bytes is too large"

/-- What is written of a packet before it is stamped. -/
def blankEntries (type : UInt8) (payload : Bytes) : List Stream.Entry :=
  [{ item := .word8 type },
    { item := .raw (List.replicate Chonkle.size 0) },
    { item := .raw payload },
    { item := .raw (List.replicate Pittle.size 0) }]

/-- A packet with zeros in the place of its tags. -/
def blank (type : UInt8) (payload : Bytes) : Bytes :=
  let zeros := List.replicate (minimumLength + payload.length) 0
  let write := (blankEntries type payload).forM Stream.Writer.entry
  (write.run.run (.ofBuffer zeros)).2.buffer

def build (type : UInt8) (payload magic : Bytes) (route : Route) :
    Except BuildError Bytes :=
  if ¬ isType type then
    .error (.badType type)
  else if lengthBound ≤ minimumLength + payload.length then
    .error (.payloadTooLarge payload.length)
  else
    .ok (route.stampInPlace magic (blank type payload)).1

end RelayFrame.Packet
