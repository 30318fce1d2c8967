/-!
# ASCII case

A comparison that overlooks the case of the letters of ASCII and of no other letter.
-/

namespace PrivacyAudit.Text

/-- Equality of two texts but for the case of ASCII letters. -/
def equalIgnoringAsciiCase (s t : String) : Bool :=
  s.toList.map Char.toLower == t.toList.map Char.toLower

/-- Whether one text occurs inside another. -/
def occursIn (needle : List Char) : List Char → Bool
  | [] => needle.isEmpty
  | c :: rest => needle.isPrefixOf (c :: rest) || occursIn needle rest

/-- Whether `s` contains `needle`. -/
def contains (s needle : String) : Bool := occursIn needle.toList s.toList

end PrivacyAudit.Text
