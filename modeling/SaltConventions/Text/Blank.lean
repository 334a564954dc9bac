import SaltConventions.Text.Ranges

/-!
# White space

The Unicode property White_Space: among others the no-break space and the line separator, but not
the information separators U+001C to U+001F.
-/

namespace SaltConventions.Text

def blankRanges : List (Nat × Nat) := [
  (0x9, 0xD), (0x20, 0x20), (0x85, 0x85), (0xA0, 0xA0), (0x1680, 0x1680), (0x2000, 0x200A),
  (0x2028, 0x2029), (0x202F, 0x202F), (0x205F, 0x205F), (0x3000, 0x3000)]

def isBlank (c : Char) : Bool :=
  inRanges blankRanges c

end SaltConventions.Text
