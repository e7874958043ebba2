/-!
# Report documents

The form of a report for programs: one JSON object whose members are numbers,
texts, truth values or nothing, one member a line and indented by two spaces.
In a text, the quotation mark, the backslash and the controls are escaped, five
controls by letters and the others by their code; all else stands as it is.
-/

namespace RelayFrame.Report

inductive Scalar where
  | nothing
  | truth (value : Bool)
  | number (value : Nat)
  | text (value : String)
deriving DecidableEq, Repr

def codeEscape (character : Char) : List Char :=
  ['\\', 'u', '0', '0', Nat.digitChar (character.toNat / 16),
    Nat.digitChar (character.toNat % 16)]

def escapeChar (character : Char) : List Char :=
  if character = '"' then ['\\', '"']
  else if character = '\\' then ['\\', '\\']
  else if character = '\x08' then ['\\', 'b']
  else if character = '\x0c' then ['\\', 'f']
  else if character = '\n' then ['\\', 'n']
  else if character = '\r' then ['\\', 'r']
  else if character = '\t' then ['\\', 't']
  else if character.toNat < 0x20 then codeEscape character
  else [character]

def textLiteral (value : String) : List Char :=
  '"' :: value.toList.flatMap escapeChar ++ ['"']

def Scalar.characters : Scalar → List Char
  | nothing => "null".toList
  | truth true => "true".toList
  | truth false => "false".toList
  | number value => Nat.toDigits 10 value
  | text value => textLiteral value

/-- The members of a report, in order. -/
abbrev Document := List (String × Scalar)

def memberLine (member : String × Scalar) : List Char :=
  ' ' :: ' ' :: textLiteral member.1 ++ ':' :: ' ' :: member.2.characters

def memberLines : Document → List Char
  | [] => []
  | [member] => memberLine member
  | member :: rest => memberLine member ++ ',' :: '\n' :: memberLines rest

/-- The text of a document that has at least one member. -/
def Document.text (document : Document) : String :=
  String.ofList
    ('\x7b' :: '\n' :: memberLines document ++ ['\n', '\x7d'])

end RelayFrame.Report
