/-!
# Numerals in base 36

A number is written with the digits 0 to 9 and the letters a to z, without leading zeros.
-/

namespace PrivacyAudit.Numeral

/-- The digits of a number in a base, the most significant first. The number itself bounds the
steps. -/
def digitsFrom (base : Nat) : (fuel n : Nat) → List Nat
  | 0, n => [n % base]
  | fuel + 1, n => if n < base then [n] else digitsFrom base fuel (n / base) ++ [n % base]

/-- The sign of a digit: a figure, then a small letter. -/
def digitChar (d : Nat) : Char := if d < 10 then Char.ofNat (0x30 + d) else Char.ofNat (0x57 + d)

/-- A number in base 36. -/
def base36 (n : Nat) : String := String.ofList ((digitsFrom 36 n n).map digitChar)

/-- The number that digits stand for, the most significant first. -/
def ofDigits (base : Nat) (ds : List Nat) : Nat := ds.foldl (fun n d => n * base + d) 0

end PrivacyAudit.Numeral
