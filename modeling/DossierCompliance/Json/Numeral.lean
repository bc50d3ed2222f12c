import DossierCompliance.Json.Reading
import DossierCompliance.Decimal.Literal

/-!
Numerals. A numeral without fraction and exponent is a whole number if it fits
64 bits, with or without a sign. Any other is the run of its first digits that
fits 64 bits, scaled by one power of ten; the digits after that run only move
the point. A numeral beyond the largest binary64 number has no value.
-/

namespace DossierCompliance.Json

/-- The parts of a numeral as they stand in the text. -/
structure Numeral where
  negative : Bool
  whole : List Char
  fraction : Option (List Char)
  exponent : Option Int

/-- Extends a number digit by digit while it stays below `2 ^ 64`: the result,
how many digits were taken, and the digits left over. -/
def feed (n : Nat) : List Char → Nat × Nat × List Char
  | [] => (n, 0, [])
  | c :: rest =>
    let next := 10 * n + Decimal.digitValue c
    if next < Nat.pow 2 64 then
      let (total, taken, left) := feed next rest
      (total, taken + 1, left)
    else (n, 0, c :: rest)

def powerOfTen (k : Nat) : Float :=
  Float.ofScientific 1 false k

/-- A 64-bit number times a power of ten in at most two roundings of its own;
nothing when the result is not finite. -/
def scaled? (significand : Nat) (exponent : Int) : Option Float :=
  let f := Float.ofNat significand
  if significand == 0 then some 0.0
  else if exponent < -616 then some 0.0
  else if exponent < -308 then some (f / powerOfTen 308 / powerOfTen (-exponent - 308).toNat)
  else if exponent < 0 then some (f / powerOfTen (-exponent).toNat)
  else if 308 < exponent then none
  else
    let product := f * powerOfTen exponent.toNat
    if product.isInf then none else some product

def Numeral.value? (n : Numeral) : Option Number :=
  let (significand, _, left) := feed 0 n.whole
  match n.fraction, n.exponent, left with
  | none, none, [] =>
    if !n.negative then some (.whole significand)
    else if significand == 0 || Nat.pow 2 63 < significand then
      some (.real (-Float.ofNat significand))
    else some (.whole (-(significand : Int)))
  | fraction, exponent, left =>
    let (significand, taken, _) := feed significand (fraction.getD [])
    let size := scaled? significand (left.length - taken + exponent.getD 0)
    size.map fun x => .real (if n.negative then -x else x)

/-- The fault of a numeral that lacks a digit where the rest begins. -/
def missingDigit : List Char → Fault
  | [] => .truncated
  | _ :: _ => .malformed

/-- The fraction at the start of a text, if there is one, and what follows it. -/
def readFraction : List Char → Except Fault (Option (List Char) × List Char)
  | '.' :: rest =>
    match Decimal.spanDigits rest with
    | ([], rest) => .error (missingDigit rest)
    | (digits, rest) => .ok (some digits, rest)
  | cs => .ok (none, cs)

/-- The exponent at the start of a text, if there is one, and what follows it. -/
def readExponent : List Char → Except Fault (Option Int × List Char)
  | [] => .ok (none, [])
  | mark :: rest =>
    if mark != 'e' && mark != 'E' then .ok (none, mark :: rest)
    else
      let (negative, rest) := Decimal.splitSign rest
      match Decimal.spanDigits rest with
      | ([], rest) => .error (missingDigit rest)
      | (digits, rest) =>
        let size : Int := Decimal.ofDigits digits
        .ok (some (if negative then -size else size), rest)

/-- The whole digits of a numeral: a zero stands alone. -/
def readWhole (cs : List Char) : Except Fault (List Char × List Char) :=
  match Decimal.spanDigits cs with
  | ([], rest) => .error (missingDigit rest)
  | ('0' :: _ :: _, _) => .error .malformed
  | (digits, rest) => .ok (digits, rest)

/-- The numeral at the start of a text and what follows it. -/
def readNumeral (cs : List Char) : Except Fault (Numeral × List Char) := do
  let (negative, rest) := match cs with
    | '-' :: rest => (true, rest)
    | rest => (false, rest)
  let (whole, rest) ← readWhole rest
  let (fraction, rest) ← readFraction rest
  let (exponent, rest) ← readExponent rest
  return ({ negative, whole, fraction, exponent }, rest)

end DossierCompliance.Json
