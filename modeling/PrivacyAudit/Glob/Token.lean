import PrivacyAudit.Pattern.Meta

/-!
# The tokens of a glob

A glob is read from left to right. Two stars and a slash are the directories on a way down, two
other stars anything at all, one star and a question mark stay within a segment. A brace opens
alternatives; a comma and a closing brace mean something only inside braces and stand for themselves
elsewhere, as all other characters do everywhere.

Each token has a spelling as a regular expression, which the reports on faulty globs show.
-/

namespace PrivacyAudit.Glob

/-- A token of a glob. -/
inductive Token
  /-- A character that stands for itself. -/
  | literal (c : Char)
  /-- `?`: one character other than the slash. -/
  | oneInSegment
  /-- `*`: any characters other than the slash. -/
  | withinSegment
  /-- `**`: any characters. -/
  | anything
  /-- `**/`: nothing, or any characters that end with a slash. -/
  | directories
  /-- `{`: the start of alternatives. -/
  | opening
  /-- `,` inside braces: the end of one alternative and the start of the next. -/
  | separator
  /-- `}` inside braces: the end of alternatives. -/
  | closing
  deriving DecidableEq, Repr

/-- The tokens of a text inside `depth` open braces. -/
def tokensFrom (depth : Nat) : List Char → List Token
  | [] => []
  | '*' :: '*' :: '/' :: rest => .directories :: tokensFrom depth rest
  | '*' :: '*' :: rest => .anything :: tokensFrom depth rest
  | '*' :: rest => .withinSegment :: tokensFrom depth rest
  | '?' :: rest => .oneInSegment :: tokensFrom depth rest
  | '{' :: rest => .opening :: tokensFrom (depth + 1) rest
  | '}' :: rest =>
    if depth = 0 then .literal '}' :: tokensFrom depth rest
      else .closing :: tokensFrom (depth - 1) rest
  | ',' :: rest =>
    (if depth = 0 then .literal ',' else .separator) :: tokensFrom depth rest
  | c :: rest => .literal c :: tokensFrom depth rest

/-- The tokens of a glob. -/
def tokens (text : List Char) : List Token := tokensFrom 0 text

/-- The spelling of a token as a regular expression. -/
def Token.spelling : Token → List Char
  | .literal c => Pattern.escaped c
  | .oneInSegment => "[^/]".toList
  | .withinSegment => "[^/]*".toList
  | .anything => ".*".toList
  | .directories => "(?:.*/)?".toList
  | .opening => "(?:".toList
  | .separator => ['|']
  | .closing => [')']

/-- The spelling of a glob as a regular expression for whole paths. -/
def spelling (ts : List Token) : List Char := '^' :: ts.flatMap Token.spelling ++ ['$']

/-- Where the spelling of the innermost brace without a partner begins, if there is one. `openings`
are the places of the open braces so far, the innermost first. -/
def unclosedFrom (openings : List Nat) (position : Nat) : List Token → Option Nat
  | [] => openings.head?
  | t :: ts =>
    let openings := match t with
      | .opening => position :: openings
      | .closing => openings.drop 1
      | _ => openings
    unclosedFrom openings (position + t.spelling.length) ts

/-- Where the spelling of the innermost brace without a partner begins, if there is one. -/
def unclosed? (ts : List Token) : Option Nat := unclosedFrom [] 1 ts

end PrivacyAudit.Glob
