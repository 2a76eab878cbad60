/-!
# White space

White space is the Unicode property `White_Space`. It is wider than the ASCII blanks and does not
hold the information separators `U+001C` to `U+001F`, the zero width space `U+200B` or the byte
order mark `U+FEFF`.
-/

namespace UnitCheck.Text

/-- The code point ranges of the Unicode property `White_Space`, both ends included. -/
def blankRanges : List (Nat × Nat) :=
  [(0x9, 0xD), (0x20, 0x20), (0x85, 0x85), (0xA0, 0xA0), (0x1680, 0x1680), (0x2000, 0x200A),
    (0x2028, 0x2029), (0x202F, 0x202F), (0x205F, 0x205F), (0x3000, 0x3000)]

/-- A character is blank when it is Unicode white space. -/
def isBlank (c : Char) : Bool :=
  blankRanges.any fun range => range.1 ≤ c.toNat && c.toNat ≤ range.2

/-- A string is blank when it holds white space only. -/
def isBlankString (text : String) : Bool :=
  text.toList.all isBlank

end UnitCheck.Text
