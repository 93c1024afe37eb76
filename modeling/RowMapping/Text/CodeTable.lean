/-!
# Tables of code points

A Unicode property as a table of the ranges of code points that have it. Tables ascend, so that a
search ends at the first range beyond the code point sought.
-/

namespace RowMapping.Text

/-- A range of code points, both ends included. -/
structure CodeRange where
  /-- The least code point. -/
  first : Nat
  /-- The greatest code point. -/
  last : Nat
  deriving DecidableEq, Repr

/-- An ascending list of ranges. -/
abbrev CodeTable : Type := List CodeRange

namespace CodeTable

/-- Whether a code point lies in one of the ranges. -/
def covers : CodeTable → Nat → Bool
  | [], _ => false
  | range :: later, code =>
      decide (range.first ≤ code) && (decide (code ≤ range.last) || covers later code)

end CodeTable

end RowMapping.Text
