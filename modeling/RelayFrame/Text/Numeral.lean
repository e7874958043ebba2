/-!
# Numerals and scanners

Numbers in texts are written in base ten or base sixteen, the letters of the
latter in lower case.  Reading accepts letters of either case.  Only the ASCII
digits are digits.

A scanner takes a value off the front of a text and hands on what follows it,
or refuses the text and takes nothing.  A numeral is taken greedily: the whole
run of digits at the front, or nothing.
-/

namespace RelayFrame.Numeral

def digitValue? (digit : Char) : Option Nat :=
  if '0' ≤ digit ∧ digit ≤ '9' then
    some (digit.toNat - '0'.toNat)
  else if 'a' ≤ digit ∧ digit ≤ 'f' then
    some (digit.toNat - 'a'.toNat + 10)
  else if 'A' ≤ digit ∧ digit ≤ 'F' then
    some (digit.toNat - 'A'.toNat + 10)
  else
    none

/-- Whether a character is a digit of a base, which is at most sixteen. -/
def isDigit (base : Nat) (character : Char) : Bool :=
  (digitValue? character).any (· < base)

def ofDigits (base : Nat) (digits : List Char) : Nat :=
  digits.foldl
    (fun total digit => base * total + (digitValue? digit).getD 0) 0

def decimal (number : Nat) : List Char :=
  Nat.toDigits 10 number

def hexadecimal (number : Nat) : List Char :=
  Nat.toDigits 16 number

def hexByte (byte : UInt8) : List Char :=
  [Nat.digitChar (byte.toNat / 16), Nat.digitChar (byte.toNat % 16)]

/-- Reads a text that is nothing but one or more decimal digits. -/
def readDigits? (text : List Char) : Option Nat :=
  if text ≠ [] ∧ text.all (isDigit 10) then
    some (ofDigits 10 text)
  else
    none

/-- Reads a decimal number that a plus sign may introduce. -/
def readUnsigned? : List Char → Option Nat
  | '+' :: digits => readDigits? digits
  | digits => readDigits? digits

/-- Reads a decimal number that a sign may introduce. -/
def readSigned? : List Char → Option Int
  | '-' :: digits => (readDigits? digits).map fun number => -(number : Int)
  | digits => (readUnsigned? digits).map Int.ofNat

end RelayFrame.Numeral

namespace RelayFrame.Text

/-- Takes a value off the front of a text, or refuses it. -/
abbrev Scanner (α : Type) := List Char → Option (α × List Char)

def after? (character : Char) : List Char → Option (List Char)
  | [] => none
  | first :: rest => if first = character then some rest else none

/-- Takes a whole run of digits that is not empty, whose spelling is allowed
and whose value is below the bound. -/
def numeral (base bound : Nat) (allowed : List Char → Bool) : Scanner Nat :=
  fun text =>
    let digits := text.takeWhile (Numeral.isDigit base)
    if digits ≠ [] ∧ allowed digits then
      let value := Numeral.ofDigits base digits
      if value < bound then
        some (value, text.dropWhile (Numeral.isDigit base))
      else
        none
    else
      none

/-- The value of a text that a scanner takes whole. -/
def Scanner.whole? {α : Type} (scan : Scanner α) (text : List Char) :
    Option α :=
  match scan text with
  | some (value, []) => some value
  | _ => none

end RelayFrame.Text
