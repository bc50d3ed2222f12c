/-!
Whole numbers among the binary64 numbers.
-/

namespace DossierCompliance.Decimal

/-- The whole number that a binary64 number is, if it is one. -/
def whole? (x : Float) : Option Int :=
  let bits : Nat := x.toBits.toNat
  let biased : Nat := bits / Nat.pow 2 52 % Nat.pow 2 11
  let fraction : Nat := bits % Nat.pow 2 52
  let mantissa : Nat := if biased == 0 then fraction else Nat.pow 2 52 + fraction
  let shift : Nat := max biased 1
  let sign : Int := if bits / Nat.pow 2 63 == 1 then -1 else 1
  if biased == 2047 then none
  else if 1075 ≤ shift then some (sign * (mantissa * Nat.pow 2 (shift - 1075) : Nat))
  else if mantissa % Nat.pow 2 (1075 - shift) == 0 then
    some (sign * (mantissa / Nat.pow 2 (1075 - shift) : Nat))
  else none

end DossierCompliance.Decimal
