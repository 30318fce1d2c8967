/-!
# Maps of code points as shifted runs

A case mapping sends long runs of code points, often every second one, to their partners at one
fixed distance. `Shift` is one such run; a list of runs is a partial map, `Shift.image?`, and the
code points that it sends to a given one are found by `Shift.preimages`.
-/

namespace PrivacyAudit.Text

/-- The code points `first`, `first + step`, … up to `last`, each mapped to itself plus
`distance`. -/
structure Shift where
  first : Nat
  last : Nat
  step : Nat
  distance : Int
  deriving Repr

/-- Whether a code point is one of the run. -/
def Shift.covers (s : Shift) (c : Nat) : Bool :=
  s.first ≤ c && c ≤ s.last && (c - s.first) % s.step == 0

/-- The code point at the run's distance. -/
def Shift.apply (s : Shift) (c : Nat) : Nat := ((c : Int) + s.distance).toNat

/-- The image of a code point under a list of runs, `none` where no run covers it. -/
def Shift.image? (runs : List Shift) (c : Nat) : Option Nat :=
  (runs.find? (·.covers c)).map (·.apply c)

/-- The code points that some run sends to `c`, in the order of the runs. -/
def Shift.preimages (runs : List Shift) (c : Nat) : List Nat :=
  runs.filterMap fun s =>
    let source := ((c : Int) - s.distance).toNat
    if s.covers source && s.apply source == c then some source else none

end PrivacyAudit.Text
