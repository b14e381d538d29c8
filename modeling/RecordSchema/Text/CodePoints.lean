/-!
# Sets of code points

A set of characters is written as the list of its code point ranges in ascending order, both ends
of a range included.  The tables of the Unicode properties that the library consults are values of
this type, and membership is the only question asked of them.
-/

namespace RecordSchema

/-- A set of characters as ascending ranges of code points, both ends included. -/
abbrev CodePoints := List (Nat × Nat)

/-- Membership of a character in a set of code points. -/
def CodePoints.contains (ranges : CodePoints) (c : Char) : Bool :=
  ranges.any fun range => range.1 ≤ c.toNat && c.toNat ≤ range.2

end RecordSchema
