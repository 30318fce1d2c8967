/-!
# Counts

A count is written in decimal digits, perhaps behind a plus sign, and fits into 64 bits.
-/

namespace PrivacyAudit.Numeral

/-- The largest count. -/
def largestCount : Nat := 0xFFFFFFFFFFFFFFFF

/-- The number that decimal digits stand for behind the number `value`. -/
def countFrom (value : Nat) : List Char → Option Nat
  | [] => some value
  | c :: cs => if c.isDigit then countFrom (value * 10 + (c.toNat - '0'.toNat)) cs else none

/-- The digits of a count without the sign in front of them. -/
def withoutPlus : List Char → List Char
  | '+' :: digits => digits
  | digits => digits

/-- The count that a text spells out. -/
def readCount (s : String) : Option Nat :=
  let digits := withoutPlus s.toList
  if digits.isEmpty then none else (countFrom 0 digits).filter (· ≤ largestCount)

end PrivacyAudit.Numeral
