/-!
# Positional text

A decimal fraction is written with all its digits and no power of ten: at least one digit in front
of the point and at least one behind it.
-/

namespace PrivacyAudit.Numeral

/-- `mantissa` times a power of ten. -/
def positional (mantissa : Nat) (exponent : Int) : String :=
  if exponent ≥ 0 then toString (mantissa * Nat.pow 10 exponent.toNat) ++ ".0"
  else
    let places := (-exponent).toNat
    let fraction := toString (mantissa % Nat.pow 10 places)
    toString (mantissa / Nat.pow 10 places) ++ "." ++
      String.ofList (List.replicate (places - fraction.length) '0') ++ fraction

end PrivacyAudit.Numeral
