/-!
# Character ranges

Properties of characters are tables of code point ranges, both ends included, in increasing order.
-/

namespace SaltConventions.Text

/-- Whether a character's code point lies in one of the ranges. -/
def inRanges (ranges : List (Nat × Nat)) (c : Char) : Bool :=
  ranges.any fun range => range.1 ≤ c.toNat && c.toNat ≤ range.2

end SaltConventions.Text
