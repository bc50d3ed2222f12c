import DossierCompliance.Decimal.Literal

/-!
Whole numbers below a bound, in decimal digits with an optional plus sign.
-/

namespace DossierCompliance.Decimal

def skipPlus : List Char → List Char
  | '+' :: rest => rest
  | cs => cs

def wholeBelow? (bound : Nat) (s : String) : Option Nat :=
  let digits := skipPlus s.toList
  if digits.isEmpty || !digits.all Char.isDigit then none
  else if ofDigits digits < bound then some (ofDigits digits)
  else none

end DossierCompliance.Decimal
