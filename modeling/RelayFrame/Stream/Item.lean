import RelayFrame.Bytes
import RelayFrame.Net.Slot

/-!
# Stream items

A stream is a row of items without any marks between them: numbers of fixed
width with the low byte first, floating-point numbers by their bit patterns,
texts and address slots.  A text stands behind a count of its bytes; raw bytes
stand for themselves, so a reader has to know how many there are.
-/

namespace RelayFrame.Stream

/-- A value that a stream can hold.  Of a floating-point number this is the bit
pattern. -/
inductive Item where
  | flag (value : Bool)
  | word8 (value : UInt8)
  | word16 (value : UInt16)
  | word32 (value : UInt32)
  | word64 (value : UInt64)
  | float32 (bits : UInt32)
  | float64 (bits : UInt64)
  | text (value : String)
  | raw (bytes : Bytes)
  | address (value : Address)
deriving DecidableEq, Repr

def textBytes (value : String) : Bytes :=
  value.toUTF8.data.toList

/-- The text that bytes are the UTF-8 form of, if they are one. -/
def textOfBytes? (bytes : Bytes) : Option String :=
  String.fromUTF8? ⟨bytes.toArray⟩

def Item.encode : Item → Bytes
  | flag value => [if value then 1 else 0]
  | word8 value => littleEndian 1 value.toNat
  | word16 value => littleEndian 2 value.toNat
  | word32 value => littleEndian 4 value.toNat
  | word64 value => littleEndian 8 value.toNat
  | float32 bits => littleEndian 4 bits.toNat
  | float64 bits => littleEndian 8 bits.toNat
  | text value =>
      let bytes := textBytes value
      littleEndian 4 bytes.length ++ bytes
  | raw bytes => bytes
  | address value => (Slot.encode value).toList

/-- What a reader expects at its position.  A text has at most so many bytes,
and raw bytes are exactly so many. -/
inductive Shape where
  | flag
  | word8
  | word16
  | word32
  | word64
  | float32
  | float64
  | text (limit : UInt32)
  | raw (count : Nat)
  | address
deriving DecidableEq, Repr

end RelayFrame.Stream
