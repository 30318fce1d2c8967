import PrivacyAudit.Text.Ranges

/-!
# White space

The characters with the Unicode property White_Space.
-/

namespace PrivacyAudit.Text

/-- The white space of Unicode. -/
def blankRanges : Ranges := [
   (0x9, 0xD), (0x20, 0x20), (0x85, 0x85), (0xA0, 0xA0), (0x1680, 0x1680), (0x2000, 0x200A),
   (0x2028, 0x2029), (0x202F, 0x202F), (0x205F, 0x205F), (0x3000, 0x3000)]

/-- Whether a character is white space. -/
def isBlank (c : Char) : Bool := blankRanges.holds c.toNat

/-- The white space of ASCII: tab, line feed, vertical tab, form feed, carriage return, space. -/
def asciiBlankRanges : Ranges := [(0x9, 0xD), (0x20, 0x20)]

end PrivacyAudit.Text
