import SqlTemplate.Text.CodePoint

/-!
# White space

The code points that are skipped around numbers and in texts of settings.
-/

namespace SqlTemplate

/-- The code points with the Unicode property `White_Space`. -/
def CodePoint.isWhiteSpace (c : CodePoint) : Bool :=
  c.within 0x09 0x0D || c.val == 0x20 || c.val == 0x85 || c.val == 0xA0 || c.val == 0x1680 ||
  c.within 0x2000 0x200A || c.within 0x2028 0x2029 || c.val == 0x202F || c.val == 0x205F ||
  c.val == 0x3000

/-- White space and the four information separators U+001C to U+001F. -/
def CodePoint.isBlank (c : CodePoint) : Bool :=
  c.isWhiteSpace || c.within 0x1C 0x1F

end SqlTemplate
