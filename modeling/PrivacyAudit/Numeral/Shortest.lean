import PrivacyAudit.Numeral.Double
import PrivacyAudit.Numeral.Positional

/-!
# Shortest decimals

A double is written with the fewest digits that are read as the same double; of two such decimals
the nearer one counts. The decimals that are read as a double lie between the points half way to its
neighbours, and these points count too if the double's last bit is zero. If a grid of decimals has a
point there, so is one of the two next to the double, which are the only ones tried.
-/

namespace PrivacyAudit.Numeral

/-- A power of ten. -/
def tenTo (exponent : Int) : Rat :=
  if exponent ≥ 0 then Nat.pow 10 exponent.toNat else 1 / Nat.pow 10 (-exponent).toNat

/-- The decimals that are read as one double. -/
structure Neighbourhood where
  centre : Rat
  least : Rat
  greatest : Rat
  /-- Whether the ends belong to it. -/
  closed : Bool
  deriving Repr

/-- The decimals that are read as a double above zero. -/
def Neighbourhood.of (magnitude : Rat) : Neighbourhood :=
  let numerator := magnitude.num.natAbs
  let e := binaryExponent numerator magnitude.den
  let significand := numerator * Nat.pow 2 (-e).toNat / (magnitude.den * Nat.pow 2 e.toNat)
  let unit : Rat := Nat.pow 2 e.toNat / Nat.pow 2 (-e).toNat
  let below := if significand = Nat.pow 2 52 ∧ e > -1074 then unit / 4 else unit / 2
  ⟨magnitude, magnitude - below, magnitude + unit / 2, significand % 2 = 0⟩

/-- Whether a number belongs to the neighbourhood. -/
def Neighbourhood.holds (n : Neighbourhood) (x : Rat) : Bool :=
  if n.closed then n.least ≤ x && x ≤ n.greatest else n.least < x && x < n.greatest

/-- The number of digits in front of the point; zero or less counts the zeros behind it. -/
def decimalPlaces (magnitude : Rat) : Int :=
  let bits : Int := (magnitude.num.natAbs.log2 : Int) - magnitude.den.log2
  let guess := (bits - 1) * 30103 / 100000
  ([guess, guess + 1, guess + 2].find? fun places => magnitude < tenTo places).getD (guess + 3)

/-- A point of the grid with `digits` digits. The point behind the last one has a digit less to
write. -/
def gridPoint (places : Int) (digits m : Nat) : Nat × Int :=
  if m = Nat.pow 10 digits then (1, places) else (m, places - digits)

/-- The point of the grid with `digits` digits that is read as the double, the nearer of two. -/
def Neighbourhood.pointOnGrid (n : Neighbourhood) (places : Int) (digits : Nat) :
    Option (Nat × Int) :=
  let unit := tenTo (places - digits)
  let m := (n.centre / unit).floor.toNat
  let below : Rat := m * unit
  let above : Rat := (m + 1) * unit
  let takeBelow := n.holds below && (!n.holds above || n.centre - below ≤ above - n.centre)
  if takeBelow then some (gridPoint places digits m)
  else if n.holds above then some (gridPoint places digits (m + 1))
  else none

/-- The shortest decimal that is read as a double above zero: a mantissa and a power of ten.
Seventeen digits always suffice. -/
def shortestDecimal (magnitude : Rat) : Nat × Int :=
  let n := Neighbourhood.of magnitude
  let places := decimalPlaces magnitude
  ((List.range 17).findSome? fun digits => n.pointOnGrid places (digits + 1)).getD (0, 0)

/-- A double in positional text. -/
def Double.text : Double → String
  | .finite negative magnitude =>
    let (mantissa, exponent) := if magnitude = 0 then (0, 0) else shortestDecimal magnitude
    (if negative then "-" else "") ++ positional mantissa exponent
  | .infinite negative => if negative then "-inf" else "inf"
  | .notANumber => "NaN"

end PrivacyAudit.Numeral
