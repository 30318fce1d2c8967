import PrivacyAudit.Text.Category
import PrivacyAudit.Text.Digit

/-!
# Visible text

A text in a message is written between quotes so that nothing in it is lost on the reader: quotes,
backslashes and line breaks are escaped, and so is every character that leaves no ink of its own, by
its number. Letters, numbers, punctuation and symbols are visible, and so are the marks that take
room, except for a few that only lengthen the character in front of them.
-/

namespace PrivacyAudit.Text

/-- The marks that take room but belong to the character in front of them. -/
def lengtheningRanges : Ranges := [
   (0x9BE, 0x9BE), (0x9D7, 0x9D7), (0xB3E, 0xB3E), (0xB57, 0xB57), (0xBBE, 0xBBE), (0xBD7, 0xBD7),
   (0xCC0, 0xCC0), (0xCC2, 0xCC2), (0xCC7, 0xCC8), (0xCCA, 0xCCB), (0xCD5, 0xCD6), (0xD3E, 0xD3E),
   (0xD57, 0xD57), (0xDCF, 0xDCF), (0xDDF, 0xDDF), (0x1715, 0x1715), (0x1734, 0x1734), (0x1B35,
   0x1B35), (0x1B3B, 0x1B3B), (0x1B3D, 0x1B3D), (0x1B43, 0x1B44), (0x1BAA, 0x1BAA), (0x1BF2,
   0x1BF3), (0x302E, 0x302F), (0xA953, 0xA953), (0xA9C0, 0xA9C0), (0xFF9E, 0xFF9F), (0x111C0,
   0x111C0), (0x11235, 0x11235), (0x1133E, 0x1133E), (0x1134D, 0x1134D), (0x11357, 0x11357),
   (0x113B8, 0x113B8), (0x113C2, 0x113C2), (0x113C5, 0x113C5), (0x113C7, 0x113C9), (0x113CF,
   0x113CF), (0x114B0, 0x114B0), (0x114BD, 0x114BD), (0x115AF, 0x115AF), (0x116B6, 0x116B6),
   (0x11930, 0x11930), (0x1193D, 0x1193D), (0x11F41, 0x11F41), (0x16FF0, 0x16FF1), (0x1D165,
   0x1D166), (0x1D16D, 0x1D172)]

/-- The categories of visible characters. -/
def visibleCategories : List Ranges :=
  [uppercaseLetterRanges, lowercaseLetterRanges, titlecaseLetterRanges, modifierLetterRanges,
    otherLetterRanges, spacingMarkRanges, digitRanges, letterNumberRanges, otherNumberRanges,
    connectorPunctuationRanges, dashPunctuationRanges, openPunctuationRanges,
    closePunctuationRanges,
    initialPunctuationRanges, finalPunctuationRanges, otherPunctuationRanges, mathSymbolRanges,
    currencySymbolRanges, modifierSymbolRanges, otherSymbolRanges]

/-- Whether a character is visible as it is; the blank counts. -/
def isVisible (c : Char) : Bool :=
  c == ' ' || visibleCategories.any (·.holds c.toNat) && !lengtheningRanges.holds c.toNat

/-- A number in base 16. -/
def hexText (n : Nat) : List Char := Nat.toDigits 16 n

/-- A character of a text between quotes. -/
def spellOut (c : Char) : List Char :=
  if c = '"' then ['\\', '"']
  else if c = '\\' then ['\\', '\\']
  else if c = '\n' then ['\\', 'n']
  else if c = '\r' then ['\\', 'r']
  else if c = '\t' then ['\\', 't']
  else if c.toNat = 0 then ['\\', '0']
  else if isVisible c then [c]
  else ['\\', 'u', '\x7b'] ++ hexText c.toNat ++ ['\x7d']

/-- A text between quotes. -/
def quoted (s : String) : String := String.ofList ('"' :: s.toList.flatMap spellOut ++ ['"'])

end PrivacyAudit.Text
