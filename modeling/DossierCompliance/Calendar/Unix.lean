import DossierCompliance.Calendar.Instant

/-!
Instants by the number of seconds since the start of the year 1970, as clocks
of machines count them. Days are counted in eras of 400 years that begin in
March, so that a leap day is the last day of its year.
-/

namespace DossierCompliance

def daysInEra : Nat := 146097

/-- The days between the first of March of the year 0 and the start of 1970. -/
def daysBeforeUnix : Int := 719468

def Date.ofUnixDay? (days : Int) : Option Date :=
  let shifted := days + daysBeforeUnix
  let era := shifted / daysInEra
  let day := (shifted % daysInEra).toNat
  let year := (day - day / 1460 + day / 36524 - day / 146096) / 365
  let dayOfYear := day - (365 * year + year / 4 - year / 100)
  let month := (5 * dayOfYear + 2) / 153
  let dayOfMonth := dayOfYear - (153 * month + 2) / 5 + 1
  if month < 10 then ofParts? (year + era * 400) (month + 3) dayOfMonth
  else ofParts? (year + era * 400 + 1) (month - 9) dayOfMonth

/-- The instant of a number of seconds, and of nanoseconds within the last one. -/
def Instant.ofUnix? (seconds nanos : Nat) : Option Instant := do
  ofParts? (← Date.ofUnixDay? (seconds / secondsInDay : Nat)) (seconds % secondsInDay) nanos

end DossierCompliance
