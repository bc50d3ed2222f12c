import DossierCompliance.Text.Blank
import DossierCompliance.Json.Shape

/-!
Calendar dates of the proleptic Gregorian calendar. A date is read as year,
month and day between hyphens, with blanks around each part, and written with
two digits for month and day and at least four for the year.
-/

namespace DossierCompliance

def isLeapYear (year : Int) : Bool :=
  year % 4 == 0 && (year % 100 != 0 || year % 400 == 0)

def daysInMonth (year : Int) (month : Nat) : Nat :=
  match month with
  | 2 => if isLeapYear year then 29 else 28
  | 4 | 6 | 9 | 11 => 30
  | _ => 31

def firstYear : Int := -262143

def lastYear : Int := 262142

def isDate (year : Int) (month day : Nat) : Bool :=
  firstYear ≤ year && year ≤ lastYear && 1 ≤ month && month ≤ 12 && 1 ≤ day
    && day ≤ daysInMonth year month

structure Date where
  year : Int
  month : Nat
  day : Nat
  valid : isDate year month day = true
  deriving DecidableEq

namespace Date

def ofParts? (year : Int) (month day : Nat) : Option Date :=
  if h : isDate year month day = true then some ⟨year, month, day, h⟩ else none

/-- A number that is larger the later a date is. -/
def rank (d : Date) : Int :=
  (d.year * 12 + d.month) * 32 + d.day

instance : LE Date where
  le a b := a.rank ≤ b.rank

instance (a b : Date) : Decidable (a ≤ b) :=
  inferInstanceAs (Decidable (a.rank ≤ b.rank))

def next? (d : Date) : Option Date :=
  ofParts? d.year d.month (d.day + 1)
    <|> ofParts? d.year (d.month + 1) 1
    <|> ofParts? (d.year + 1) 1 1

def previous? (d : Date) : Option Date :=
  ofParts? d.year d.month (d.day - 1)
    <|> ofParts? d.year (d.month - 1) (daysInMonth d.year (d.month - 1))
    <|> ofParts? (d.year - 1) 12 31

/-! ### Writing -/

/-- The decimal digits of a number, filled up with zeros. -/
def padded (width n : Nat) : List Char :=
  let digits := Nat.toDigits 10 n
  List.replicate (width - digits.length) '0' ++ digits

/-- A year of more than four digits, or before the year zero, has a sign. -/
def yearChars (year : Int) : List Char :=
  if year < 0 then '-' :: padded 4 year.natAbs
  else if 9999 < year then '+' :: padded 4 year.natAbs
  else padded 4 year.natAbs

def chars (d : Date) : List Char :=
  yearChars d.year ++ '-' :: (padded 2 d.month ++ '-' :: padded 2 d.day)

def text (d : Date) : String :=
  String.ofList d.chars

def toJson (d : Date) : Json :=
  .string d.text

/-! ### Reading -/

/-- A number of at most `width` digits behind blanks. -/
def readNumber (width : Nat) (cs : List Char) : Option (Nat × List Char) :=
  let cs := Text.skipBlanks cs
  let digits := (cs.take width).takeWhile Char.isDigit
  if digits.isEmpty then none else some (Decimal.ofDigits digits, cs.drop digits.length)

/-- A year: four digits at most, or any number of them behind a sign. -/
def readYear (cs : List Char) : Option (Int × List Char) :=
  match Text.skipBlanks cs with
  | '-' :: rest => if rest.head?.any Char.isDigit then
      (readNumber rest.length rest).map fun (n, rest) => (-(n : Int), rest)
    else none
  | '+' :: rest => if rest.head?.any Char.isDigit then
      (readNumber rest.length rest).map fun (n, rest) => ((n : Int), rest)
    else none
  | rest => (readNumber 4 rest).map fun (n, rest) => ((n : Int), rest)

/-- What follows a separator that may have blanks before it. -/
def readSeparator (separator : Char) (cs : List Char) : Option (List Char) :=
  match Text.skipBlanks cs with
  | c :: rest => if c == separator then some rest else none
  | [] => none

/-- The date at the start of a text and what follows it. -/
def read (cs : List Char) : Option (Date × List Char) := do
  let (year, cs) ← readYear cs
  let (month, cs) ← readNumber 2 (← readSeparator '-' cs)
  let (day, cs) ← readNumber 2 (← readSeparator '-' cs)
  return (← ofParts? year month day, cs)

def ofText? (text : String) : Option Date := do
  let (d, rest) ← read text.toList
  if (Text.skipBlanks rest).isEmpty then return d else none

def decode : Json.Decoder Date :=
  Json.Decoder.parsed ofText?

end Date

end DossierCompliance
