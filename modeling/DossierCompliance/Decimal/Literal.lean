/-!
Decimal numerals read to the nearest binary64 number.
-/

namespace DossierCompliance.Decimal

def digitValue (c : Char) : Nat :=
  c.toNat - 48

def ofDigits (cs : List Char) : Nat :=
  cs.foldl (fun n c => 10 * n + digitValue c) 0

def spanDigits (cs : List Char) : List Char × List Char :=
  cs.span Char.isDigit

def infinity : Float :=
  1.0 / 0.0

def notANumber : Float :=
  0.0 / 0.0

/-- The number nearest to `mantissa * 10 ^ exponent`. Exponents far outside the
range of the format are answered without computing the power. -/
def nearest (mantissa : Nat) (exponent : Int) : Float :=
  let magnitude := ((Nat.toDigits 10 mantissa).length : Int) + exponent
  if mantissa == 0 || magnitude < -400 then 0.0
  else if 400 < magnitude then infinity
  else Float.ofScientific mantissa (exponent < 0) exponent.natAbs

/-- Splits a sign off a numeral: whether it is a minus, and what follows it. -/
def splitSign : List Char → Bool × List Char
  | '-' :: rest => (true, rest)
  | '+' :: rest => (false, rest)
  | cs => (false, cs)

/-- The exponent at the end of a numeral, zero when there is none. -/
def exponent? : List Char → Option Int
  | [] => some 0
  | mark :: rest =>
    if mark != 'e' && mark != 'E' then none
    else
      let (negative, rest) := splitSign rest
      if rest.isEmpty || !rest.all Char.isDigit then none
      else some (if negative then -(ofDigits rest : Int) else ofDigits rest)

/-- A numeral without a sign: digits with at most one point among or beside
them, then perhaps an exponent. -/
def unsigned? (cs : List Char) : Option Float :=
  let (whole, rest) := spanDigits cs
  let (fraction, rest) := match rest with
    | '.' :: rest => spanDigits rest
    | rest => ([], rest)
  if whole.isEmpty && fraction.isEmpty then none
  else (exponent? rest).map fun e => nearest (ofDigits (whole ++ fraction)) (e - fraction.length)

/-- A numeral, or one of the names of infinity and of the number that is none,
in either case and with an optional sign. -/
def literal? (s : String) : Option Float :=
  let (negative, rest) := splitSign s.toList
  let size := match String.ofList (rest.map Char.toLower) with
    | "inf" | "infinity" => some infinity
    | "nan" => some notANumber
    | _ => unsigned? rest
  size.map fun x => if negative then -x else x

end DossierCompliance.Decimal
