/-!
# Characters with a meaning

The characters that mean something in a written pattern. Behind a backslash each stands for itself.
-/

namespace PrivacyAudit.Pattern

/-- Whether a character means something in a written pattern. -/
def isMeta (c : Char) : Bool := "\\.+*?()|[]\x7b\x7d^$#&-~".toList.contains c

/-- The spelling of a character that stands for itself. -/
def escaped (c : Char) : List Char := if isMeta c then ['\\', c] else [c]

end PrivacyAudit.Pattern
