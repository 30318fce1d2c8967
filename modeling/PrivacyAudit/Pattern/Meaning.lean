import PrivacyAudit.Pattern.Basic
import PrivacyAudit.Pattern.Property
import PrivacyAudit.Text.Blank
import PrivacyAudit.Text.Digit

/-!
# The meaning of a written pattern

`Expr.meaning` applies the flags of a written pattern: a letter becomes the set of its case variants
where case is ignored, a dot the set of the characters that it stands for, a group the part between
its marks. Flags inside a group hold to the end of the group. Where Unicode is switched off only
ASCII can be spoken of: anything that could read part of a character is refused.
-/

namespace PrivacyAudit.Pattern

open Text

/-- The flags in force at a place of a pattern. -/
structure Modes where
  ignoreCase : Bool
  multiLine : Bool
  dotAll : Bool
  swapGreed : Bool
  unicode : Bool
  carriageReturn : Bool
  deriving DecidableEq, Repr

/-- The modes at the start of a pattern. -/
def Modes.initial (ignoreCase : Bool) : Modes := ⟨ignoreCase, false, false, false, true, false⟩

/-- The modes behind a change of flags. -/
def Modes.apply (modes : Modes) (change : FlagChange) : Modes where
  ignoreCase := (change.value? .ignoreCase).getD modes.ignoreCase
  multiLine := (change.value? .multiLine).getD modes.multiLine
  dotAll := (change.value? .dotAll).getD modes.dotAll
  swapGreed := (change.value? .swapGreed).getD modes.swapGreed
  unicode := (change.value? .unicode).getD modes.unicode
  carriageReturn := (change.value? .carriageReturn).getD modes.carriageReturn

/-- The alphabet that words are made of. -/
def Modes.words (modes : Modes) : WordAlphabet := if modes.unicode then .unicode else .ascii

/-! ## 1. Sets -/

/-- The set closed under case where case is ignored, and its complement if it is negated. Without
Unicode the set is one of bytes, and only ASCII is allowed in the end. -/
def Modes.finishSet (modes : Modes) (negated : Bool) (s : CharSet) : Except Fault CharSet :=
  if modes.unicode then
    let s := if modes.ignoreCase then s.closeUnderCase else s
    .ok (if negated then s.complement else s)
  else
    let s := if modes.ignoreCase then s.closeUnderAsciiCase else s
    let s : CharSet := if negated then ⟨CharSet.gaps 0xFF 0 s.ranges⟩ else s
    if s.isAscii then .ok s else .error .invalidUtf8

/-- The characters of a named ASCII class. -/
def AsciiClass.ranges : AsciiClass → Ranges
  | .alnum => [(0x30, 0x39), (0x41, 0x5A), (0x61, 0x7A)]
  | .alpha => [(0x41, 0x5A), (0x61, 0x7A)]
  | .ascii => [(0, 0x7F)]
  | .blank => [(9, 9), (0x20, 0x20)]
  | .cntrl => [(0, 0x1F), (0x7F, 0x7F)]
  | .digit => [(0x30, 0x39)]
  | .graph => [(0x21, 0x7E)]
  | .lower => [(0x61, 0x7A)]
  | .print => [(0x20, 0x7E)]
  | .punct => [(0x21, 0x2F), (0x3A, 0x40), (0x5B, 0x60), (0x7B, 0x7E)]
  | .space => [(9, 0xD), (0x20, 0x20)]
  | .upper => [(0x41, 0x5A)]
  | .word => [(0x30, 0x39), (0x41, 0x5A), (0x5F, 0x5F), (0x61, 0x7A)]
  | .xdigit => [(0x30, 0x39), (0x41, 0x46), (0x61, 0x66)]

/-- The characters of a class with an escape letter, in Unicode or in ASCII. -/
def Shorthand.ranges (unicode : Bool) : Shorthand → Ranges
  | .digit => if unicode then digitRanges else asciiDigitRanges
  | .blank => if unicode then blankRanges else asciiBlankRanges
  | .word => if unicode then wordRanges else asciiWordRanges

/-- The set of a class with an escape letter. Its case is never changed. -/
def Modes.shorthand (modes : Modes) (cls : Shorthand) (negated : Bool) : Except Fault CharSet :=
  { modes with ignoreCase := false }.finishSet negated ⟨cls.ranges modes.unicode⟩

/-- The set of a Unicode property, which only Unicode has. -/
def Modes.property (modes : Modes) (query : PropertyQuery) (negated : Bool) :
    Except Fault CharSet :=
  if modes.unicode then do modes.finishSet negated (← query.find) else .error .unicodeOff

/-- The code point of a character as a member of a class. -/
def Modes.member (modes : Modes) (c : Char) (byte : Bool) : Except Fault Nat :=
  if modes.unicode || c.toNat < 0x80 then .ok c.toNat
  else if byte then .error .invalidUtf8
  else .error .unicodeOff

/-- The set of what stands between brackets, before the brackets' own negation. -/
def ClassExpr.toSet (modes : Modes) : ClassExpr → Except Fault CharSet
  | .empty => .ok .none
  | .literal c byte => do
    let n ← modes.member c byte
    return .range n n
  | .range first firstByte last lastByte => do
    return .range (← modes.member first firstByte) (← modes.member last lastByte)
  | .ascii cls negated => modes.finishSet negated ⟨cls.ranges⟩
  | .shorthand cls negated => modes.shorthand cls negated
  | .property query negated => modes.property query negated
  | .bracketed negated inside => do modes.finishSet negated (← inside.toSet modes)
  | .union items => toSets items
  | .op kind left right => do
    let left ← left.toSet modes
    let right ← right.toSet modes
    let close (s : CharSet) : CharSet :=
      if !modes.ignoreCase then s
      else if modes.unicode then s.closeUnderCase else s.closeUnderAsciiCase
    match kind with
    | .intersection => return (close left).inter (close right)
    | .difference => return (close left).diff (close right)
    | .symmetricDifference => return (close left).symmDiff (close right)
where
  /-- The characters of several items. -/
  toSets : List ClassExpr → Except Fault CharSet
    | [] => .ok .none
    | item :: items => do
      let s ← item.toSet modes
      let t ← toSets items
      return s.union t

/-! ## 2. Patterns -/

/-- A character that stands for itself, or for its case variants where case is ignored. -/
def Modes.literal (modes : Modes) (c : Char) (byte : Bool) : Except Fault Pattern :=
  if modes.unicode then .ok (.set (if modes.ignoreCase then .caseVariants c else .single c))
  else if byte && c.toNat ≥ 0x80 then .error .invalidUtf8
  else .ok (.set (if modes.ignoreCase then (CharSet.single c).closeUnderAsciiCase else .single c))

/-- Any character, or any character of a line. -/
def Modes.dot (modes : Modes) : Except Fault Pattern :=
  if !modes.unicode then .error .invalidUtf8
  else if modes.dotAll then .ok (.set .all)
  else if modes.carriageReturn then .ok
    (.set (CharSet.ofRanges [(0xA, 0xA), (0xD, 0xD)]).complement)
  else .ok (.set (CharSet.single '\n').complement)

/-- The condition that an anchor asks for. -/
def Modes.anchor (modes : Modes) : Anchor → Look
  | .lineStart =>
    if modes.multiLine then (if modes.carriageReturn then .lineStartAny else .lineStart)
      else .textStart
  | .lineEnd =>
    if modes.multiLine then (if modes.carriageReturn then .lineEndAny else .lineEnd) else .textEnd
  | .textStart => .textStart
  | .textEnd => .textEnd
  | .boundary => .boundary modes.words
  | .inner => .inner modes.words
  | .wordStart => .wordStart modes.words
  | .wordEnd => .wordEnd modes.words
  | .wordStartHalf => .wordStartHalf modes.words
  | .wordEndHalf => .wordEndHalf modes.words

/-- The pattern that an expression describes where `modes` are in force, and the modes behind it. -/
def Expr.meaning (modes : Modes) : Expr → Except Fault (Pattern × Modes)
  | .empty => .ok (.empty, modes)
  | .flags change => .ok (.empty, modes.apply change)
  | .literal c byte => do return (← modes.literal c byte, modes)
  | .dot => do return (← modes.dot, modes)
  | .anchor kind => .ok (.look (modes.anchor kind), modes)
  | .shorthand cls negated => do return (.set (← modes.shorthand cls negated), modes)
  | .property query negated => do return (.set (← modes.property query negated), modes)
  | .bracketed negated inside => do
    return (.set (← modes.finishSet negated (← inside.toSet modes)), modes)
  | .repeated body least most greedy => do
    let (p, modes) ← body.meaning modes
    return (.loop p least most (greedy != modes.swapGreed), modes)
  | .group number change body => do
    let (p, _) ← body.meaning (modes.apply change)
    return (match number with
      | none => p
      | some k => Pattern.group k p, modes)
  | .sequence parts => do
    let (ps, modes) ← meanings modes parts
    return (.sequence ps, modes)
  | .choice parts => do
    let (ps, modes) ← meanings modes parts
    return (.choice ps, modes)
where
  /-- The patterns of several parts, each read in the modes behind the one before. -/
  meanings (modes : Modes) : List Expr → Except Fault (List Pattern × Modes)
    | [] => .ok ([], modes)
    | part :: parts => do
      let (p, modes) ← part.meaning modes
      let (ps, modes) ← meanings modes parts
      return (p :: ps, modes)

end PrivacyAudit.Pattern
