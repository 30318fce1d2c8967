/-!
# UTF-16

The code units of a text: a character outside the basic plane takes two, a high and a low surrogate.
-/

namespace PrivacyAudit.Text

/-- The code units of a character. -/
def charUnits16 (c : Char) : List UInt16 :=
  let n := c.toNat
  if n < 0x10000 then [UInt16.ofNat n]
  else [UInt16.ofNat (0xD800 + (n - 0x10000) / 0x400),
    UInt16.ofNat (0xDC00 + (n - 0x10000) % 0x400)]

/-- The code units of a text. -/
def units16 (s : String) : List UInt16 := s.toList.flatMap charUnits16

end PrivacyAudit.Text
