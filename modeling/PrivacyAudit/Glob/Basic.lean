import PrivacyAudit.Glob.Shape
import PrivacyAudit.Pattern.Compile
import PrivacyAudit.Pattern.Occurrence
import PrivacyAudit.Pattern.Report

/-!
# Globs

A glob describes whole paths. `Glob.ofText?` spells it as a regular expression, which is read and
checked as every regular expression is; the reports on faulty globs show this spelling. A set of
globs accepts a path if one of them does; of several faulty globs the first is reported.
-/

namespace PrivacyAudit

/-- A glob that was accepted: the pattern that its spelling is read as. -/
structure Glob where
  pattern : Pattern
  deriving DecidableEq, Repr

namespace Glob

/-- Why a glob is refused. -/
inductive Reason
  /-- A fault of its spelling as a regular expression, between two positions of it. -/
  | fault (spelling : List Char) (start stop : Nat) (kind : Pattern.Fault)
  /-- The pattern is too large. -/
  | tooLarge
  deriving DecidableEq, Repr

/-- A glob that was refused, with the reason. -/
structure Refusal where
  text : String
  reason : Reason
  deriving DecidableEq, Repr

/-- The reason in words. -/
def Reason.message : Reason → String
  | .fault spelling start stop kind => Pattern.report spelling start stop kind
  | .tooLarge => Pattern.Fault.tooLarge.message

/-- Whether the glob describes the path. -/
def accepts (g : Glob) (path : String) : Bool := g.pattern.occurs path.toList

/-- The place of the spelling that a fault lies at: what is nested too deeply, or the brace without
a partner. The whole spelling is a sequence, the first level of nesting. -/
def place (ts : List Token) : Pattern.Fault → Shape.Place
  | .nestingTooDeep =>
    let deep := (Shape.ofTokens? ts).bind (Shape.tooDeep? Pattern.nestingLimit · true 1 1)
    deep.getD (0, (spelling ts).length)
  | _ =>
    let start := (unclosed? ts).getD 1
    (start, start + 1)

/-- Why a text is refused whose spelling has a fault. -/
def reason (ts : List Token) : Pattern.Fault → Reason
  | .tooLarge => .tooLarge
  | kind => .fault (spelling ts) (place ts kind).1 (place ts kind).2 kind

/-- The glob that a text spells out. -/
def ofText? (text : String) : Except Refusal Glob :=
  let ts := tokens text.toList
  match Pattern.ofText? false (String.ofList (spelling ts)) with
  | .ok p => .ok ⟨p⟩
  | .error kind => .error ⟨text, reason ts kind⟩

/-- The globs that texts spell out, or the first refusal. -/
def ofTexts? : List String → Except Refusal (List Glob)
  | [] => .ok []
  | text :: texts => do
    let g ← ofText? text
    let gs ← ofTexts? texts
    return g :: gs

/-- Whether one of the globs describes the path. -/
def anyAccepts (gs : List Glob) (path : String) : Bool := gs.any (·.accepts path)

end Glob

end PrivacyAudit
