/-!
# Sets of characters given by code point ranges
-/

namespace TransactSql.Text

/-- A set of characters as inclusive ranges of code points, in increasing order. -/
abbrev CharRanges := List (Nat × Nat)

def CharRanges.covers (ranges : CharRanges) (c : Char) : Bool :=
  ranges.any fun r => r.1 ≤ c.toNat && c.toNat ≤ r.2

end TransactSql.Text
