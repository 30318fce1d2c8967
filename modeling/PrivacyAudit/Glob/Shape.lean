import PrivacyAudit.Glob.Token

/-!
# The shape of a glob

The tokens of a glob form a tree: sequences, and alternatives inside braces. `Shape.Denotes` says
which paths a shape stands for, directly in terms of the path's characters. The regular expression
that spells the glob has the same tree; `Shape.tooDeep?` finds the place of it that is nested too
deeply.
-/

namespace PrivacyAudit.Glob

/-- The tree that the tokens of a glob form. -/
inductive Shape
  | nothing
  | literal (c : Char)
  | oneInSegment
  | withinSegment
  | anything
  | directories
  /-- One after the other. -/
  | both (first second : Shape)
  /-- One or the other. -/
  | either (first second : Shape)
  /-- Alternatives in braces. -/
  | braces (inside : Shape)
  deriving DecidableEq, Repr, Inhabited

namespace Shape

/-! ## 1. From tokens to shapes -/

/-- A shape with one more behind it. -/
def andThen : Shape → Shape → Shape
  | .nothing, item => item
  | before, item => .both before item

/-- Alternatives with one more behind them. -/
def orElse : Option Shape → Shape → Shape
  | none, last => last
  | some before, last => .either before last

/-- What stands outside an open brace: the sequence in front of it and the alternatives in front of
that sequence. -/
abbrev Outside := List (Shape × Option Shape)

/-- Puts the tokens behind `current`, the sequence being read, and `before`, the alternatives in
front of it. No shape results when a brace has no partner. -/
def ofTokensFrom (current : Shape) (before : Option Shape) (outside : Outside) :
    List Token → Option Shape
  | [] => if outside.isEmpty then some (orElse before current) else none
  | .literal c :: ts => ofTokensFrom (current.andThen (.literal c)) before outside ts
  | .oneInSegment :: ts => ofTokensFrom (current.andThen .oneInSegment) before outside ts
  | .withinSegment :: ts => ofTokensFrom (current.andThen .withinSegment) before outside ts
  | .anything :: ts => ofTokensFrom (current.andThen .anything) before outside ts
  | .directories :: ts => ofTokensFrom (current.andThen .directories) before outside ts
  | .opening :: ts => ofTokensFrom .nothing none ((current, before) :: outside) ts
  | .separator :: ts => ofTokensFrom .nothing (some (orElse before current)) outside ts
  | .closing :: ts =>
    match outside with
    | [] => none
    | (sequence, alternatives) :: outside =>
      ofTokensFrom (sequence.andThen (.braces (orElse before current))) alternatives outside ts

/-- The shape of the tokens, `none` when a brace has no partner. -/
def ofTokens? (ts : List Token) : Option Shape := ofTokensFrom .nothing none [] ts

/-! ## 2. The paths of a shape -/

/-- The paths that a shape stands for. -/
def Denotes : Shape → List Char → Prop
  | .nothing, path => path = []
  | .literal c, path => path = [c]
  | .oneInSegment, path => ∃ c, c ≠ '/' ∧ path = [c]
  | .withinSegment, path => '/' ∉ path
  | .anything, _ => True
  | .directories, path => path = [] ∨ ∃ above, path = above ++ ['/']
  | .both a b, path => ∃ x y, path = x ++ y ∧ a.Denotes x ∧ b.Denotes y
  | .either a b, path => a.Denotes path ∨ b.Denotes path
  | .braces a, path => a.Denotes path

/-! ## 3. Nesting -/

/-- The length of the spelling as a regular expression. -/
def width : Shape → Nat
  | .nothing => 0
  | .literal c => (Pattern.escaped c).length
  | .oneInSegment => 4
  | .withinSegment => 5
  | .anything => 2
  | .directories => 8
  | .both a b => a.width + b.width
  | .either a b => a.width + 1 + b.width
  | .braces a => a.width + 4

/-- A place in a spelling: its start and its end. -/
abbrev Place := Nat × Nat

/-- Goes one level deeper at a place: too deep there, or on with what is inside. -/
def enter (limit depth : Nat) (place : Place) (inside : Nat → Option Place) : Option Place :=
  if depth + 1 > limit then some place else inside (depth + 1)

/-- Whether the shape is a list of alternatives. -/
def isEither : Shape → Bool
  | .either _ _ => true
  | _ => false

/-- The first place of the spelling that lies deeper than the limit. A sequence of several parts is
a level, and so are alternatives, braces, classes and repetitions; `joined` tells that the level of
the sequence or the alternatives was entered already. -/
def tooDeep? (limit : Nat) : Shape → (joined : Bool) → (depth start : Nat) → Option Place
  | .nothing, _, _, _ => none
  | .literal _, _, _, _ => none
  | .oneInSegment, _, depth, start => enter limit depth (start, start + 4) fun _ => none
  | .withinSegment, _, depth, start =>
    enter limit depth (start, start + 5) fun depth =>
      enter limit depth (start, start + 4) fun _ => none
  | .anything, _, depth, start => enter limit depth (start, start + 2) fun _ => none
  | .directories, _, depth, start =>
    enter limit depth (start, start + 8) fun depth =>
      enter limit depth (start, start + 7) fun depth =>
        enter limit depth (start + 3, start + 6) fun depth =>
          enter limit depth (start + 3, start + 5) fun _ => none
  | .both a b, joined, depth, start =>
    let parts (depth : Nat) :=
      (a.tooDeep? limit true depth start).or (b.tooDeep? limit true depth (start + a.width))
    if joined then parts depth else enter limit depth (start, start + a.width + b.width) parts
  | .either a b, joined, depth, start =>
    let parts (depth : Nat) :=
      (a.tooDeep? limit a.isEither depth start).or
        (b.tooDeep? limit false depth (start + a.width + 1))
    if joined then parts depth else enter limit depth (start, start + a.width + 1 + b.width) parts
  | .braces a, _, depth, start =>
    enter limit depth (start, start + a.width + 4) fun depth =>
    a.tooDeep? limit false depth (start + 3)

end Shape

end PrivacyAudit.Glob
