import PrivacyAudit.Pattern.CharSet
import PrivacyAudit.Pattern.Look

/-!
# Patterns

A pattern describes spans of a text. It is built from character sets, conditions on positions,
sequence, choice and repetition; marks record positions, so that a group is a part between two
marks.

`Pattern.Matches p pre mid post` says that `p` describes the span `mid` of the text
`pre ++ mid ++ post`. It is the meaning that the test of `Pattern.Occurrence` and the search of
`Pattern.Search` are held against. Choice and repetition are ordered only for the search: here all
ways to match count alike.
-/

namespace PrivacyAudit

/-- A description of spans of a text. -/
inductive Pattern
  /-- The empty span. -/
  | empty
  /-- One character of a set. -/
  | set (s : CharSet)
  /-- The empty span at a position where a condition holds. -/
  | look (l : Look)
  /-- The empty span; the position is recorded under a number. -/
  | mark (slot : Nat)
  /-- A span of the first followed by a span of the second. -/
  | seq (first second : Pattern)
  /-- A span of either, the first preferred. -/
  | alt (first second : Pattern)
  /-- Spans of the body one after the other, at least `least` of them and at most `most`; more are
  preferred if `greedy`, else fewer. -/
  | loop (body : Pattern) (least : Nat) (most : Option Nat) (greedy : Bool)
  deriving DecidableEq, Repr, Inhabited

namespace Pattern

/-- One character. -/
def char (c : Char) : Pattern := .set (.single c)

/-- The characters of a text one after the other. -/
def literal (s : List Char) : Pattern := s.foldr (fun c p => .seq (.char c) p) .empty

/-- The parts of a list one after the other. -/
def sequence : List Pattern → Pattern
  | [] => .empty
  | [p] => p
  | p :: ps => .seq p (sequence ps)

/-- A choice among the members of a list, earlier ones preferred; no member means no span at all. -/
def choice : List Pattern → Pattern
  | [] => .set .none
  | [p] => p
  | p :: ps => .alt p (choice ps)

/-- A part between the two marks of the group number `k`. -/
def group (k : Nat) (p : Pattern) : Pattern := .seq (.mark (2 * k)) (.seq p (.mark (2 * k + 1)))

/-- Any number of spans, as many as possible. -/
def many (p : Pattern) : Pattern := .loop p 0 none true

/-- One span or more, as many as possible. -/
def many1 (p : Pattern) : Pattern := .loop p 1 none true

/-- At most one span, preferably one. -/
def optional (p : Pattern) : Pattern := .loop p 0 (some 1) true

/-- `Matches p pre mid post`: in the text `pre ++ mid ++ post`, the pattern describes the span
`mid`. -/
inductive Matches : Pattern → List Char → List Char → List Char → Prop
  | empty {pre post} : Matches .empty pre [] post
  | set {s : CharSet} {c pre post} : s.contains c = true → Matches (.set s) pre [c] post
  | look {l : Look} {pre post} : l.holds pre.getLast? post.head? = true →
      Matches (.look l) pre [] post
  | mark {k pre post} : Matches (.mark k) pre [] post
  | seq {p q pre mid₁ mid₂ post} :
      Matches p pre mid₁ (mid₂ ++ post) → Matches q (pre ++ mid₁) mid₂ post →
      Matches (.seq p q) pre (mid₁ ++ mid₂) post
  | altFirst {p q pre mid post} : Matches p pre mid post → Matches (.alt p q) pre mid post
  | altSecond {p q pre mid post} : Matches q pre mid post → Matches (.alt p q) pre mid post
  | loopDone {p most greedy pre post} : Matches (.loop p 0 most greedy) pre [] post
  | loopMore {p least most greedy pre mid₁ mid₂ post} :
      most ≠ some 0 → Matches p pre mid₁ (mid₂ ++ post) →
      Matches (.loop p (least - 1) (most.map (· - 1)) greedy) (pre ++ mid₁) mid₂ post →
      Matches (.loop p least most greedy) pre (mid₁ ++ mid₂) post

/-- Some span of the text is described by the pattern. -/
def Occurs (p : Pattern) (text : List Char) : Prop :=
  ∃ pre mid post, text = pre ++ mid ++ post ∧ p.Matches pre mid post

end Pattern

end PrivacyAudit
