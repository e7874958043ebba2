import RelayFrame.Text.Extending
import RelayFrame.Text.Numeral
import RelayFrame.Text.Unassigned

/-!
# Quoted text

Messages show a foreign text between quotation marks, so that its ends and
every character of it can be told.  A backslash and the mark itself are
escaped, four controls have escapes of their own, and a character that would
not show by itself is given by its code point.
-/

namespace RelayFrame.Text

def isPlain (character : Char) : Bool :=
  if character.toNat < 0x7f then
    0x20 ≤ character.toNat
  else
    !(inRanges invisibleRanges character ||
      inRanges ignorableRanges character ||
      inRanges extendingRanges character ||
      inRanges unassignedRanges character)

def codePointEscape (character : Char) : List Char :=
  ['\\', 'u', '\x7b'] ++ Numeral.hexadecimal character.toNat ++ ['\x7d']

/-- A character as it stands between two of the marks. -/
def quoteChar (mark character : Char) : List Char :=
  if character = '\x00' then ['\\', '0']
  else if character = '\t' then ['\\', 't']
  else if character = '\n' then ['\\', 'n']
  else if character = '\r' then ['\\', 'r']
  else if character = '\\' ∨ character = mark then ['\\', character]
  else if isPlain character then [character]
  else codePointEscape character

def quoteWith (mark : Char) (text : List Char) : String :=
  String.ofList (mark :: text.flatMap (quoteChar mark) ++ [mark])

def quote (text : String) : String :=
  quoteWith '"' text.toList

def quoteSingle (character : Char) : String :=
  quoteWith '\'' [character]

end RelayFrame.Text
