import PrivacyAudit.Pattern.Meaning
import PrivacyAudit.Pattern.Reader
import PrivacyAudit.Pattern.Size

/-!
# From text to pattern

`Pattern.ofText?` reads a written pattern, applies its flags and checks its size: the faults are
reported in this order.
-/

namespace PrivacyAudit.Pattern

/-- The pattern that an expression describes, if its size is within the limit. -/
def ofExpr? (ignoreCase : Bool) (expr : Expr) : Except Fault Pattern := do
  let (p, _) ← expr.meaning (.initial ignoreCase)
  if p.size > sizeLimit then throw .tooLarge
  return p

/-- The pattern that a text spells out; `ignoreCase` is in force until a flag of the text changes
it. -/
def ofText? (ignoreCase : Bool) (text : String) : Except Fault Pattern := do
  ofExpr? ignoreCase (← Expr.read text.toList)

end PrivacyAudit.Pattern
