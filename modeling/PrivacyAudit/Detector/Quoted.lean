import PrivacyAudit.Pattern.Basic

/-!
# Quoted parts

Build scripts, Podfiles and pages of markup put names between quotes of either kind; the two quotes
around a name need not be of one kind.
-/

namespace PrivacyAudit

/-- The two kinds of quotes. -/
def quoteMarks : CharSet := .ofRanges [(0x22, 0x22), (0x27, 0x27)]

/-- A part between quotes, at least one character long, under the group number `k`. -/
def quotedGroup (k : Nat) : List Pattern :=
  [.set quoteMarks, .group k (.many1 (.set quoteMarks.complement)), .set quoteMarks]

end PrivacyAudit
