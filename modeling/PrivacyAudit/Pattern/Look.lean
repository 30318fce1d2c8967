import PrivacyAudit.Text.WordChar

/-!
# Positions

A position of a text lies between two characters, or at an end of the text where one of them is
missing. A look-around condition holds at a position by what these two neighbours are; it reads
nothing.
-/

namespace PrivacyAudit

/-- Which characters count as parts of words. -/
inductive WordAlphabet
  | unicode
  | ascii
  deriving DecidableEq, Repr

/-- A condition on the characters before and after a position. -/
inductive Look
  /-- The start of the text. -/
  | textStart
  /-- The end of the text. -/
  | textEnd
  /-- The start of the text or the place after a line feed. -/
  | lineStart
  /-- The end of the text or the place before a line feed. -/
  | lineEnd
  /-- The start of a line where a carriage return, a line feed or both together end a line. -/
  | lineStartAny
  /-- The end of such a line. -/
  | lineEndAny
  /-- A word character on exactly one side. -/
  | boundary (w : WordAlphabet)
  /-- A word character on both sides or on none. -/
  | inner (w : WordAlphabet)
  /-- A word character after the position and none before it. -/
  | wordStart (w : WordAlphabet)
  /-- A word character before the position and none after it. -/
  | wordEnd (w : WordAlphabet)
  /-- No word character before the position. -/
  | wordStartHalf (w : WordAlphabet)
  /-- No word character after the position. -/
  | wordEndHalf (w : WordAlphabet)
  deriving DecidableEq, Repr

/-- Whether a character is part of a word. -/
def WordAlphabet.contains : WordAlphabet → Char → Bool
  | .unicode, c => Text.isWordChar c
  | .ascii, c => Text.isAsciiWordChar c

/-- Whether there is a neighbour and it is part of a word. -/
def WordAlphabet.holds (w : WordAlphabet) : Option Char → Bool
  | none => false
  | some c => w.contains c

/-- Whether the condition holds between the neighbours `before` and `after`. -/
def Look.holds : Look → (before after : Option Char) → Bool
  | .textStart, before, _ => before.isNone
  | .textEnd, _, after => after.isNone
  | .lineStart, before, _ => before.isNone || before == some '\n'
  | .lineEnd, _, after => after.isNone || after == some '\n'
  | .lineStartAny, before, after =>
    before.isNone || before == some '\n' || (before == some '\r' && after != some '\n')
  | .lineEndAny, before, after =>
    after.isNone || after == some '\r' || (after == some '\n' && before != some '\r')
  | .boundary w, before, after => w.holds before != w.holds after
  | .inner w, before, after => w.holds before == w.holds after
  | .wordStart w, before, after => !w.holds before && w.holds after
  | .wordEnd w, before, after => w.holds before && !w.holds after
  | .wordStartHalf w, before, _ => !w.holds before
  | .wordEndHalf w, _, after => !w.holds after

end PrivacyAudit
