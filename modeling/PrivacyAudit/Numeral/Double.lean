/-!
# Doubles

A decimal number that is kept in 64 bits becomes the nearest number with 53 significant bits; of two
that are equally near, the one whose last bit is zero. Numbers too small for that many bits are
multiples of 2 to the power -1074, and numbers that would reach 2 to the power 1024 become infinite.
-/

namespace PrivacyAudit.Numeral

/-- A number that is kept in 64 bits. -/
inductive Double
  | finite (negative : Bool) (magnitude : Rat)
  | infinite (negative : Bool)
  | notANumber
  deriving DecidableEq, Repr

/-- A fraction of natural numbers rounded to a natural number, halves to the even neighbour. -/
def roundHalfEven (numerator denominator : Nat) : Nat :=
  let whole := numerator / denominator
  let rest := numerator % denominator
  if 2 * rest < denominator then whole
  else if 2 * rest > denominator then whole + 1
  else whole + whole % 2

/-- The power of two by which a fraction must be divided to have 53 bits in front of the point, but
not below the least power of a double. -/
def binaryExponent (numerator denominator : Nat) : Int :=
  let guess : Int := (numerator.log2 : Int) - denominator.log2 - 52
  let fits :=
    numerator * Nat.pow 2 (-guess).toNat < denominator * Nat.pow 2 guess.toNat * Nat.pow 2 52
  max (if fits then guess - 1 else guess) (-1074)

/-- The number with 53 significant bits that is nearest to a fraction of natural numbers. -/
def nearestBinary (numerator denominator : Nat) : Rat :=
  if numerator = 0 then 0
  else
    let e := binaryExponent numerator denominator
    let significand :=
      roundHalfEven (numerator * Nat.pow 2 (-e).toNat) (denominator * Nat.pow 2 e.toNat)
    (significand * Nat.pow 2 e.toNat : Nat) / Nat.pow 2 (-e).toNat

/-- Powers of ten from this one on are infinite as doubles, and their inverses are zero. -/
def decimalRange : Int := 400

/-- The number of decimal places that a natural number takes, at most. -/
def placesBound (n : Nat) : Nat := n.log2 + 1

/-- The double nearest to `mantissa` times a power of ten. -/
def Double.ofDecimal (negative : Bool) (mantissa : Nat) (exponent : Int) : Double :=
  if mantissa = 0 ∨ exponent + placesBound mantissa < -decimalRange then .finite negative 0
  else if exponent > decimalRange then .infinite negative
  else
    let magnitude :=
      nearestBinary (mantissa * Nat.pow 10 exponent.toNat) (Nat.pow 10 (-exponent).toNat)
    if magnitude < Nat.pow 2 1024 then .finite negative magnitude else .infinite negative

/-- The value of a number that is finite. -/
def Double.value? : Double → Option Rat
  | .finite negative magnitude => some (if negative then -magnitude else magnitude)
  | _ => none

end PrivacyAudit.Numeral
