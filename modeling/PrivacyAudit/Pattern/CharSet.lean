import PrivacyAudit.Text.Ranges
import PrivacyAudit.Text.Folding

/-!
# Character sets

The sets of characters that a pattern reads: sorted lists of maximal ranges of code points, with the
Boolean operations and the closure under case.
-/

namespace PrivacyAudit

open Text (Ranges)

/-- A set of characters, written as ranges of code points. -/
structure CharSet where
  ranges : Ranges
  deriving DecidableEq, Repr, Inhabited

namespace CharSet

/-- The largest code point. -/
def lastCodePoint : Nat := 0x10FFFF

/-- Whether a character belongs to the set. -/
def contains (s : CharSet) (c : Char) : Bool := s.ranges.holds c.toNat

/-- Adds a range in front of sorted ranges that begin no earlier, joining those it touches. -/
def addFirst (r : Nat × Nat) : Ranges → Ranges
  | [] => [r]
  | (first, last) :: later =>
    if first ≤ r.2 + 1 then addFirst (r.1, max r.2 last) later else r :: (first, last) :: later

/-- The set of the characters in any of the ranges, whatever their order and overlaps. -/
def ofRanges (rs : List (Nat × Nat)) : CharSet :=
  ⟨(rs.mergeSort fun r s => decide (r.1 ≤ s.1)).foldr addFirst []⟩

/-- The set of the characters from `first` to `last`. -/
def range (first last : Nat) : CharSet := ⟨[(first, last)]⟩

/-- The set of one character. -/
def single (c : Char) : CharSet := range c.toNat c.toNat

/-- The empty set. -/
def none : CharSet := ⟨[]⟩

/-- The set of all characters. -/
def all : CharSet := range 0 lastCodePoint

/-- The characters in either set. -/
def union (s t : CharSet) : CharSet := ofRanges (s.ranges ++ t.ranges)

/-- The gaps between sorted ranges, from `start` up to `last`. -/
def gaps (last start : Nat) : Ranges → Ranges
  | [] => if start ≤ last then [(start, last)] else []
  | (a, b) :: later =>
    if start < a then (start, a - 1) :: gaps last (b + 1) later else gaps last (b + 1) later

/-- The characters outside the set. -/
def complement (s : CharSet) : CharSet := ⟨gaps lastCodePoint 0 s.ranges⟩

/-- The characters in both sets. -/
def inter (s t : CharSet) : CharSet := (s.complement.union t.complement).complement

/-- The characters in the first set and not in the second. -/
def diff (s t : CharSet) : CharSet := s.inter t.complement

/-- The characters in exactly one of the sets. -/
def symmDiff (s t : CharSet) : CharSet := (s.diff t).union (t.diff s)

/-- Whether every character of the set is an ASCII character. -/
def isAscii (s : CharSet) : Bool := s.ranges.all fun r => r.2 < 0x80

/-- The case variants of one character. -/
def caseVariants (c : Char) : CharSet :=
  ofRanges ((Text.caseVariants c.toNat).map fun d => (d, d))

/-- The classes of characters that are equal but for case, without the classes of one character. -/
def caseClasses : List (List Nat) :=
  (Text.foldingShifts.flatMap fun s =>
    (List.range ((s.last - s.first) / s.step + 1)).map fun k =>
      Text.caseVariants (s.first + k * s.step))

/-- The set together with all case variants of its characters. -/
def closeUnderCase (s : CharSet) : CharSet :=
  ofRanges (s.ranges ++
    (caseClasses.filter fun cls => cls.any s.ranges.holds).flatMap fun cls =>
    cls.map fun d => (d, d))

/-- The set together with the other case of its ASCII letters. -/
def closeUnderAsciiCase (s : CharSet) : CharSet :=
  ofRanges (s.ranges ++
    (List.range 26).flatMap fun k =>
      if s.ranges.holds (0x41 + k) || s.ranges.holds (0x61 + k) then
        [(0x41 + k, 0x41 + k), (0x61 + k, 0x61 + k)]
      else [])

end CharSet

end PrivacyAudit
