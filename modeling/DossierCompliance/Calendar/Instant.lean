import DossierCompliance.Calendar.Date

/-!
Instants of universal time, to the nanosecond. A leap second is the second
second of the last one of its minute. An instant is read with an offset from
universal time and written without one.
-/

namespace DossierCompliance

def secondsInDay : Nat := 86400

def nanosInSecond : Nat := 1000000000

/-- A second of the day, and its nanoseconds. They go on into a leap second
where the second is the last of a minute. -/
def isTime (second nanos : Nat) : Bool :=
  second < secondsInDay
    && (nanos < nanosInSecond || (nanos < 2 * nanosInSecond && second % 60 == 59))

structure Instant where
  date : Date
  second : Nat
  nanos : Nat
  valid : isTime second nanos = true
  deriving DecidableEq

namespace Instant

def ofParts? (date : Date) (second nanos : Nat) : Option Instant :=
  if h : isTime second nanos = true then some ⟨date, second, nanos, h⟩ else none

/-- A number that is larger the later an instant is. -/
def rank (t : Instant) : Int :=
  (t.date.rank * secondsInDay + t.second) * (2 * nanosInSecond) + t.nanos

instance : LE Instant where
  le a b := a.rank ≤ b.rank

instance (a b : Instant) : Decidable (a ≤ b) :=
  inferInstanceAs (Decidable (a.rank ≤ b.rank))

section Newest

variable {α : Type} (time : α → Instant)

/-- The items from the latest to the earliest, by a stable sort of them from the
last to the first. -/
def newestFirst (items : List α) : List α :=
  items.reverse.mergeSort fun a b => time b ≤ time a

/-- Of two rows with a number each the first is the later one, or as late and of
no smaller number. -/
def IsBefore (a b : α × Nat) : Prop :=
  time b.1 ≤ time a.1 ∧ (time a.1 ≤ time b.1 → b.2 ≤ a.2)

instance (a b : α × Nat) : Decidable (IsBefore time a b) :=
  inferInstanceAs (Decidable (_ ∧ _))

/-- Rows in the order of their times and then of their numbers, both from the
largest on. They are numbered as they were added. -/
def newestRows (rows : List α) : List α :=
  (rows.zipIdx.mergeSort fun a b => IsBefore time a b).map (·.1)

end Newest

/-- The instant of a local time that is ahead of universal time by an offset of
less than a day. -/
def ofLocal? (date : Date) (second nanos : Nat) (offset : Int) : Option Instant := do
  let shifted := (second : Int) - offset
  if shifted < 0 then ofParts? (← date.previous?) (shifted + secondsInDay).toNat nanos
  else if secondsInDay ≤ shifted then ofParts? (← date.next?) (shifted - secondsInDay).toNat nanos
  else ofParts? date shifted.toNat nanos

/-! ### Writing -/

/-- How many digits of the fraction are written: none, three, six or nine. -/
def fractionDigits (nanos : Nat) : Nat :=
  if nanos == 0 then 0
  else if nanos % 1000000 == 0 then 3
  else if nanos % 1000 == 0 then 6
  else 9

/-- The first digits of a fraction behind a point. -/
def fractionChars (digits nanos : Nat) : List Char :=
  if digits == 0 then [] else '.' :: (Date.padded 9 nanos).take digits

def clockChars (second : Nat) (leap : Nat) : List Char :=
  Date.padded 2 (second / 3600) ++ ':' :: (Date.padded 2 (second / 60 % 60)
    ++ ':' :: Date.padded 2 (second % 60 + leap))

/-- Date, time and the given number of digits of the fraction. -/
def charsWith (t : Instant) (digits : Nat) : List Char :=
  t.date.chars ++ 'T' :: (clockChars t.second (t.nanos / nanosInSecond)
    ++ fractionChars digits (t.nanos % nanosInSecond))

def chars (t : Instant) : List Char :=
  t.charsWith (fractionDigits (t.nanos % nanosInSecond))

/-- With as many digits as needed and the letter of universal time. -/
def text (t : Instant) : String :=
  String.ofList (t.chars ++ ['Z'])

/-- With as many digits as needed and a zero offset. -/
def offsetText (t : Instant) : String :=
  String.ofList (t.chars ++ ['+', '0', '0', ':', '0', '0'])

/-- With exactly six digits, cut, and the letter of universal time. -/
def microsText (t : Instant) : String :=
  String.ofList (t.charsWith 6 ++ ['Z'])

def toJson (t : Instant) : Json :=
  .string t.text

/-! ### Reading -/

/-- The nanoseconds of a fraction; digits after the ninth do not count. -/
def readFraction : List Char → Option (Nat × List Char)
  | '.' :: rest =>
    let digits := rest.takeWhile Char.isDigit
    let kept := digits.take 9
    if digits.isEmpty then none
    else some (Decimal.ofDigits kept * Nat.pow 10 (9 - kept.length), rest.drop digits.length)
  | cs => some (0, cs)

/-- The second of the day and its nanoseconds; a second numbered 60 is a leap second. -/
def readClock (cs : List Char) : Option ((Nat × Nat) × List Char) := do
  let (hour, cs) ← Date.readNumber 2 cs
  let (minute, cs) ← Date.readNumber 2 (← Date.readSeparator ':' cs)
  let (second, cs) ← Date.readNumber 2 (← Date.readSeparator ':' cs)
  let (nanos, cs) ← readFraction cs
  if 23 < hour || 59 < minute || 60 < second then none
  else
    let before := (hour * 60 + minute) * 60
    if second == 60 then return ((before + 59, nanosInSecond + nanos), cs)
    else return ((before + second, nanos), cs)

def twoDigits? : List Char → Option (Nat × List Char)
  | a :: b :: rest =>
    if a.isDigit && b.isDigit then some (Decimal.ofDigits [a, b], rest) else none
  | _ => none

/-- The seconds of an offset behind its sign: hours and minutes, between which
colons and blanks may stand. -/
def readOffsetSize (cs : List Char) : Option (Nat × List Char) := do
  let (hours, cs) ← twoDigits? cs
  let (minutes, cs) ← twoDigits? (cs.dropWhile fun c => c == ':' || Text.blankChar c)
  if 59 < minutes || 24 ≤ hours then none
  else return ((hours * 60 + minutes) * 60, cs)

/-- An offset in seconds: the letter or the name of universal time, or a sign
and a size. The minus may be the mathematical one. -/
def readOffset (cs : List Char) : Option (Int × List Char) :=
  match cs with
  | 'Z' :: rest | 'z' :: rest => some (0, rest)
  | '+' :: rest => (readOffsetSize rest).map fun (n, rest) => ((n : Int), rest)
  | '-' :: rest | '\u2212' :: rest =>
    (readOffsetSize rest).map fun (n, rest) => (-(n : Int), rest)
  | a :: b :: c :: rest =>
    if [a, b, c].map Char.toUpper == ['U', 'T', 'C'] then some (0, rest) else none
  | _ => none

def ofText? (text : String) : Option Instant := do
  let (date, cs) ← Date.read text.toList
  match cs with
  | 'T' :: cs | 't' :: cs | ' ' :: cs =>
    let ((second, nanos), cs) ← readClock cs
    let (offset, cs) ← readOffset (Text.skipBlanks cs)
    if (Text.skipBlanks cs).isEmpty then ofLocal? date second nanos offset else none
  | _ => none

def decode : Json.Decoder Instant :=
  Json.Decoder.parsed ofText?

end Instant

end DossierCompliance
