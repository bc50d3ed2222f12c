import DossierCompliance.Decimal.Shortest

/-!
How the digits of a number are laid out. One record holds the decisions of an
output format; the digits themselves are those of `Decimal.shortest`.
-/

namespace DossierCompliance.Decimal

/-- Numbers whose leading digit has an exponent from `plainFrom` up to but not
including `plainBelow` are written with a point, the others with an exponent. -/
structure Layout where
  plainFrom : Int
  plainBelow : Int

def zeros (n : Nat) : List Char :=
  List.replicate n '0'

/-- A decimal with a point and at least one digit on either side of it. -/
def plain (d : Digits) : List Char :=
  let point := (d.digits.length : Int) + d.exponent
  if point ≤ 0 then
    '0' :: '.' :: (zeros (-point).toNat ++ d.digits)
  else if 0 ≤ d.exponent then
    d.digits ++ zeros d.exponent.toNat ++ ['.', '0']
  else
    d.digits.take point.toNat ++ '.' :: d.digits.drop point.toNat

/-- A decimal with one digit before the point and a signed exponent; the point
is left out when nothing follows it. -/
def scientific (d : Digits) (exponent : Int) : List Char :=
  let fraction := match d.digits.drop 1 with
    | [] => []
    | rest => '.' :: rest
  let sign := if exponent < 0 then '-' else '+'
  d.digits.take 1 ++ fraction ++ 'e' :: sign :: Nat.toDigits 10 exponent.natAbs

def Layout.write (style : Layout) (d : Digits) : List Char :=
  let exponent := (d.digits.length : Int) + d.exponent - 1
  if style.plainFrom ≤ exponent && exponent < style.plainBelow then plain d
  else scientific d exponent

/-- The text of a finite number; a zero keeps its sign. -/
def Layout.render (style : Layout) (x : Float) : String :=
  let negative := x.toBits.toNat / Nat.pow 2 63 == 1
  let digits := if x == 0.0 then ['0', '.', '0'] else style.write (shortest x)
  String.ofList (if negative then '-' :: digits else digits)

end DossierCompliance.Decimal
