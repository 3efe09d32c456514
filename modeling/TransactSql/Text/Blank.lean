import TransactSql.Text.CharRange

/-!
# Blank characters

The Unicode property `White_Space`, and trimming by it.
-/

namespace TransactSql.Text

def blankRanges : CharRanges :=
  [(0x9, 0xD), (0x20, 0x20), (0x85, 0x85), (0xA0, 0xA0), (0x1680, 0x1680), (0x2000, 0x200A),
   (0x2028, 0x2029), (0x202F, 0x202F), (0x205F, 0x205F), (0x3000, 0x3000)]

def isBlank (c : Char) : Bool := blankRanges.covers c

/-- `\n` and `\r` end a line. -/
def isLineEnd (c : Char) : Bool := c == '\n' || c == '\r'

/-- Drops the blank characters at both ends. -/
def trim (cs : List Char) : List Char :=
  ((cs.dropWhile isBlank).reverse.dropWhile isBlank).reverse

end TransactSql.Text
