/-!
The fewest decimal digits that identify a binary64 number. A number stands for
all reals that round to it, so any decimal among them may be written for it.
The search goes through ever finer decimal grids and takes the first one with
a point among those reals; of two such points the nearer one, and on an exact
tie the one whose last digit is even. All arithmetic is on naturals, in units
of a power of ten in which the number and both ends are whole.
-/

namespace DossierCompliance.Decimal

/-- A positive finite number as `value / 10 ^ scale`, with the ends of the
reals that round to it. The ends are held four times over, since they lie
half-way and, below a power of two, a quarter of the way to the neighbours. -/
structure Interval where
  value : Nat
  lower : Nat
  upper : Nat
  closed : Bool
  scale : Nat

/-- The interval of the number `mantissa * 2 ^ exponent`. The gap below is
halved when `narrow`, and the ends round to the number when its mantissa is even. -/
def Interval.ofParts (mantissa : Nat) (exponent : Int) (narrow : Bool) : Interval :=
  let unit : Nat := if 0 ≤ exponent then Nat.pow 2 exponent.toNat else Nat.pow 5 (-exponent).toNat
  let gap : Nat := if narrow then 1 else 2
  { value := mantissa * unit
    lower := (4 * mantissa - gap) * unit
    upper := (4 * mantissa + 2) * unit
    closed := mantissa % 2 == 0
    scale := (-exponent).toNat }

/-- The interval of the absolute value of a finite number other than zero. -/
def Interval.ofFloat (x : Float) : Interval :=
  let bits : Nat := x.toBits.toNat
  let biased : Nat := bits / Nat.pow 2 52 % Nat.pow 2 11
  let fraction : Nat := bits % Nat.pow 2 52
  if biased == 0 then ofParts fraction (-1074) false
  else ofParts (Nat.pow 2 52 + fraction) (Int.ofNat biased - 1075) (fraction == 0 && biased > 1)

/-- Whether a decimal, in the units of the interval, rounds to its number. -/
def Interval.holds (i : Interval) (point : Nat) : Bool :=
  if i.closed then i.lower ≤ 4 * point && 4 * point ≤ i.upper
  else i.lower < 4 * point && 4 * point < i.upper

/-- The point of a grid that is written for the number, if the grid has one. -/
def Interval.pointOn? (i : Interval) (step : Nat) : Option Nat :=
  let low := i.value / step * step
  let high := low + step
  match i.holds low, i.holds high with
  | true, true =>
    if 2 * i.value < low + high then some low
    else if low + high < 2 * i.value then some high
    else if low / step % 2 == 0 then some low
    else some high
  | true, false => some low
  | false, true => some high
  | false, false => none

/-- The first point found from the grid `10 ^ zeros` down to the units, where
the number itself is a point. -/
def Interval.point (i : Interval) : Nat → Nat
  | 0 => i.value
  | zeros + 1 => (i.pointOn? (Nat.pow 10 (zeros + 1))).getD (i.point zeros)

/-- A decimal `digits * 10 ^ exponent`, its digits most significant first and
neither beginning nor ending with zero. -/
structure Digits where
  digits : List Char
  exponent : Int
  deriving DecidableEq

/-- A positive natural number in units of `10 ^ exponent`, without the zeros at its end. -/
def Digits.ofNat (n : Nat) (exponent : Int) : Digits :=
  let all := Nat.toDigits 10 n
  let kept := (all.reverse.dropWhile (· == '0')).reverse
  { digits := kept, exponent := exponent + (all.length - kept.length : Nat) }

/-- The decimal written for the absolute value of a finite number other than zero. -/
def shortest (x : Float) : Digits :=
  let i := Interval.ofFloat x
  Digits.ofNat (i.point ((Nat.toDigits 10 i.value).length - 1)) (-(i.scale : Int))

end DossierCompliance.Decimal
