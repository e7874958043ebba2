/-!
# Classes of characters

A class of characters is given by a list of ranges of code points, both ends
included.  White space is a class by itself: the five ASCII controls from tab
to carriage return, the space, the next-line control and the spaces and line
separators beyond ASCII.  The two other classes here are what a display does
not show: characters that show nothing by themselves, which are the controls,
format characters, private-use characters and all separators but the plain
space, and characters that it passes over in silence where it has no form for
them, which are fillers, joiners, variation selectors and their like, with the
code points kept free for more of them.
-/

namespace RelayFrame.Text

/-- The first and the last code point of a range. -/
abbrev CharRange := Nat × Nat

def inRanges (ranges : List CharRange) (character : Char) : Bool :=
  ranges.any fun range =>
    range.1 ≤ character.toNat && character.toNat ≤ range.2

/-! ## White space -/

def blankRanges : List CharRange :=
  [(0x9, 0xd), (0x20, 0x20), (0x85, 0x85), (0xa0, 0xa0), (0x1680, 0x1680),
    (0x2000, 0x200a), (0x2028, 0x2029), (0x202f, 0x202f), (0x205f, 0x205f),
    (0x3000, 0x3000)]

def isBlank (character : Char) : Bool :=
  inRanges blankRanges character

def trimmed (text : List Char) : List Char :=
  ((text.dropWhile isBlank).reverse.dropWhile isBlank).reverse

def trim (text : String) : String :=
  String.ofList (trimmed text.toList)

/-! ## Characters that do not show -/

/-- The ranges of controls, format and private-use characters and separators,
without the plain space. -/
def invisibleRanges : List CharRange :=
  [
    (0x0, 0x1f), (0x7f, 0xa0), (0xad, 0xad), (0x600, 0x605), (0x61c, 0x61c),
    (0x6dd, 0x6dd), (0x70f, 0x70f), (0x890, 0x891), (0x8e2, 0x8e2),
    (0x1680, 0x1680), (0x180e, 0x180e), (0x2000, 0x200f), (0x2028, 0x202f),
    (0x205f, 0x2064), (0x2066, 0x206f), (0x3000, 0x3000), (0xe000, 0xf8ff),
    (0xfeff, 0xfeff), (0xfff9, 0xfffb), (0x110bd, 0x110bd),
    (0x110cd, 0x110cd), (0x13430, 0x1343f), (0x1bca0, 0x1bca3),
    (0x1d173, 0x1d17a), (0xe0001, 0xe0001), (0xe0020, 0xe007f),
    (0xf0000, 0xffffd), (0x100000, 0x10fffd)]

/-- The ranges of characters that are passed over when they cannot be
shown. -/
def ignorableRanges : List CharRange :=
  [(0xad, 0xad), (0x34f, 0x34f), (0x61c, 0x61c), (0x115f, 0x1160),
    (0x17b4, 0x17b5), (0x180b, 0x180f), (0x200b, 0x200f), (0x202a, 0x202e),
    (0x2060, 0x206f), (0x3164, 0x3164), (0xfe00, 0xfe0f), (0xfeff, 0xfeff),
    (0xffa0, 0xffa0), (0xfff0, 0xfff8), (0x1bca0, 0x1bca3),
    (0x1d173, 0x1d17a), (0xe0000, 0xe0fff)]

end RelayFrame.Text
