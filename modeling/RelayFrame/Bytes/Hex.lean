import RelayFrame.Bytes
import RelayFrame.Text.Quoted

/-!
# Byte strings as hexadecimal text

A byte string is written as two digits a byte, in lower case.  Reading takes
letters of either case and looks at the text as the bytes that store it, so a
fault is named by its place among those bytes.  An odd number of digits is
reported before any character that is no digit.
-/

namespace RelayFrame.Hex

/-- Why a text is not the hexadecimal form of a byte string.  Of the bytes that
are no digits the first is named, with its place. -/
inductive DecodeError where
  | oddLength
  | notDigit (byte : UInt8) (position : Nat)
deriving DecidableEq, Repr

/-- What the error tells its reader.  A stored byte is shown as the character
with its code. -/
def DecodeError.message : DecodeError → String
  | oddLength => "Odd number of digits"
  | notDigit byte position =>
      "Invalid character " ++ Text.quoteSingle (Char.ofNat byte.toNat) ++
        " at position " ++ position.repr

/-- The two-digit forms of the bytes, one after the other. -/
def digits (bytes : Bytes) : List Char :=
  bytes.flatMap Numeral.hexByte

def encode (bytes : Bytes) : String :=
  String.ofList (digits bytes)

def byteDigit? (byte : UInt8) : Option Nat :=
  Numeral.digitValue? (Char.ofNat byte.toNat)

/-- Pairs up stored digits, the first of which stands at `position`. -/
def decodeFrom (position : Nat) : Bytes → Except DecodeError Bytes
  | [] => .ok []
  | [_] => .error .oddLength
  | high :: low :: rest =>
      match byteDigit? high, byteDigit? low with
      | none, _ => .error (.notDigit high position)
      | some _, none => .error (.notDigit low (position + 1))
      | some highDigit, some lowDigit =>
          (decodeFrom (position + 2) rest).map
            (UInt8.ofNat (16 * highDigit + lowDigit) :: ·)

def decode (text : String) : Except DecodeError Bytes :=
  let stored := text.toUTF8.data.toList
  if stored.length % 2 = 1 then
    .error .oddLength
  else
    decodeFrom 0 stored

end RelayFrame.Hex
