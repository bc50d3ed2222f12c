import DossierCompliance.Calendar.Instant

/-!
Instants to the microsecond, as a database keeps them: as a count from the start
of the year 2000. What is finer is cut off toward that start, so an earlier
instant moves forward. In the count a leap second is the second after it.
-/

namespace DossierCompliance.Instant

def nanosInMicro : Nat := 1000

/-- The year from whose start microseconds are counted. -/
def countingYear : Int := 2000

/-- The nanoseconds without what is finer than a microsecond, cut off downward
or made up to the next microsecond. -/
def cutNanos (upward : Bool) (nanos : Nat) : Nat :=
  (if upward then nanos + (nanosInMicro - 1) else nanos) / nanosInMicro * nanosInMicro

/-- The instant whose nanoseconds may go on over its second, which is not the
last one of the calendar. -/
def carried? (date : Date) (second nanos : Nat) : Option Instant := do
  let total := second + nanos / nanosInSecond
  let rest := nanos % nanosInSecond
  if total < secondsInDay then ofParts? date total rest
  else ofParts? (← date.next?) (total - secondsInDay) rest

/-- The instant that a database gives back. -/
def cutToMicros (t : Instant) : Instant :=
  (carried? t.date t.second (cutNanos (t.date.year < countingYear) t.nanos)).getD t

end DossierCompliance.Instant
