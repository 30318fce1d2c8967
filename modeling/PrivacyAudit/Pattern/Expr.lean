/-!
# Written patterns

The expression that the text of a pattern spells out, before its flags are applied: `Pattern.Reader`
reads it and `Pattern.Meaning` turns it into a pattern. `Expr.depth` counts the levels of nesting,
in which groups, bracketed classes, repetitions, sequences and choices take part, leaves do not.
-/

namespace PrivacyAudit.Pattern

/-- The switches of a written pattern. -/
inductive Flag
  | ignoreCase
  | multiLine
  | dotAll
  | swapGreed
  | unicode
  | carriageReturn
  | verbose
  deriving DecidableEq, Repr

/-- A list of flags to be switched on and, behind a minus sign, off. -/
structure FlagChange where
  on : List Flag
  off : List Flag
  deriving DecidableEq, Repr

/-- What a change makes of a flag, `none` if it does not mention it. -/
def FlagChange.value? (change : FlagChange) (flag : Flag) : Option Bool :=
  if change.off.contains flag then some false
  else if change.on.contains flag then some true
  else none

/-- The three classes with an escape letter of their own. -/
inductive Shorthand
  | digit
  | blank
  | word
  deriving DecidableEq, Repr

/-- The named classes of ASCII characters. -/
inductive AsciiClass
  | alnum | alpha | ascii | blank | cntrl | digit | graph | lower | print | punct | space | upper
  | word | xdigit
  deriving DecidableEq, Repr

/-- A Unicode property as it is asked for. -/
inductive PropertyQuery
  /-- A name, or the single letter of a general category. -/
  | named (name : String)
  /-- A property and one of its values; `negated` if they are joined by `!=`. -/
  | valued (name value : String) (negated : Bool)
  deriving DecidableEq, Repr

/-- A written condition on positions. -/
inductive Anchor
  | lineStart | lineEnd | textStart | textEnd | boundary | inner
  | wordStart | wordEnd | wordStartHalf | wordEndHalf
  deriving DecidableEq, Repr

/-- The operations between the classes inside brackets. -/
inductive ClassOp
  | intersection | difference | symmetricDifference
  deriving DecidableEq, Repr

/-- What stands between brackets. -/
inductive ClassExpr
  | empty
  /-- A character; `byte` if it is spelt as two hexadecimal digits. -/
  | literal (c : Char) (byte : Bool)
  | range (first : Char) (firstByte : Bool) (last : Char) (lastByte : Bool)
  | ascii (cls : AsciiClass) (negated : Bool)
  | shorthand (cls : Shorthand) (negated : Bool)
  | property (query : PropertyQuery) (negated : Bool)
  | bracketed (negated : Bool) (inside : ClassExpr)
  | union (items : List ClassExpr)
  | op (kind : ClassOp) (left right : ClassExpr)
  deriving Repr

/-- A written pattern. -/
inductive Expr
  | empty
  /-- Flags that hold from here to the end of the enclosing group. -/
  | flags (change : FlagChange)
  | literal (c : Char) (byte : Bool)
  | dot
  | anchor (kind : Anchor)
  | shorthand (cls : Shorthand) (negated : Bool)
  | property (query : PropertyQuery) (negated : Bool)
  | bracketed (negated : Bool) (inside : ClassExpr)
  | repeated (body : Expr) (least : Nat) (most : Option Nat) (greedy : Bool)
  /-- A group: its number if it captures, its own flags if it has any. -/
  | group (number : Option Nat) (change : FlagChange) (body : Expr)
  | sequence (parts : List Expr)
  | choice (parts : List Expr)
  deriving Repr

/-- The levels of nesting inside brackets. -/
def ClassExpr.depth : ClassExpr → Nat
  | .bracketed _ inside => inside.depth + 1
  | .union items => depths items + 1
  | .op _ left right => max left.depth right.depth + 1
  | _ => 0
where
  /-- The deepest of several items. -/
  depths : List ClassExpr → Nat
    | [] => 0
    | item :: items => max item.depth (depths items)

/-- The levels of nesting of a written pattern. -/
def Expr.depth : Expr → Nat
  | .bracketed _ inside => inside.depth + 1
  | .repeated body .. => body.depth + 1
  | .group _ _ body => body.depth + 1
  | .sequence parts => depths parts + 1
  | .choice parts => depths parts + 1
  | _ => 0
where
  /-- The deepest of several parts. -/
  depths : List Expr → Nat
    | [] => 0
    | part :: parts => max part.depth (depths parts)

end PrivacyAudit.Pattern
