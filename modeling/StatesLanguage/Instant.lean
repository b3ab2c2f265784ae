import StatesLanguage.Calendar

/-!
# Instants

An instant counts seconds from the start of 1970 in universal time, and nanoseconds
within the second.  A leap second is the second before it, held for another thousand
million nanoseconds, so that it comes after that second and before the next minute.
-/

namespace StatesLanguage

/-- A point in time. -/
structure Instant where
  seconds : Int
  nanoseconds : Nat
  deriving DecidableEq, Repr

namespace Instant

def nanosecondsPerSecond : Nat := 1000000000

/-- The order of two instants: by second, then by nanosecond. -/
def compare (left right : Instant) : Ordering :=
  (Ord.compare left.seconds right.seconds).then
    (Ord.compare left.nanoseconds right.nanoseconds)

/-- The instant some seconds later. -/
def addSeconds (instant : Instant) (seconds : Int) : Instant :=
  { instant with seconds := instant.seconds + seconds }

/-- The instant without its nanoseconds below a whole millisecond. -/
def truncateToMilliseconds (instant : Instant) : Instant :=
  { instant with nanoseconds := instant.nanoseconds / 1000000 * 1000000 }

/-- The seconds of its day before an instant. -/
def timeOfDay (instant : Instant) : Int :=
  instant.seconds % 86400

/-- Whether an instant lies in a leap second. -/
def inLeapSecond (instant : Instant) : Bool :=
  nanosecondsPerSecond ≤ instant.nanoseconds

/-- The seconds that leap seconds add from one time of day to another.  Only a leap second
that the earlier of the two lies in counts, since it has to end before the later one. -/
def leapSecondsUntil (start stop : Instant) : Int :=
  if start.timeOfDay < stop.timeOfDay then
    if start.inLeapSecond then 1 else 0
  else if stop.timeOfDay < start.timeOfDay then
    if stop.inLeapSecond then -1 else 0
  else 0

/-- The nanoseconds from one instant to another, or zero if there are fewer: those between
the two times of day, and those of the days between the two dates. -/
def nanosecondsUntil (start stop : Instant) : Nat :=
  ((stop.seconds - start.seconds + start.leapSecondsUntil stop) *
      (nanosecondsPerSecond : Int) +
    (stop.nanoseconds : Int) - (start.nanoseconds : Int)).toNat

end Instant

/-- A date and a time of day in universal time; second sixty is a leap second. -/
structure CivilTime where
  date : CalendarDate
  hour : Nat
  minute : Nat
  second : Nat
  nanoseconds : Nat
  deriving DecidableEq, Repr

namespace CivilTime

/-- Whether the calendar has the date and the clock the time. -/
def isValid (time : CivilTime) : Bool :=
  time.date.isValid && time.hour ≤ 23 && time.minute ≤ 59 && time.second ≤ 60

/-- The instant of a time that exists. -/
def toInstant (time : CivilTime) : Instant :=
  let second := min time.second 59
  let seconds : Int :=
    time.date.dayNumber * 86400 + (3600 * time.hour + 60 * time.minute + second : Nat)
  ⟨seconds, time.nanoseconds +
    (if time.second = 60 then Instant.nanosecondsPerSecond else 0)⟩

/-- The date and time of an instant. -/
def ofInstant (instant : Instant) : CivilTime :=
  let days := instant.seconds / 86400
  let inDay := (instant.seconds % 86400).toNat
  { date := CalendarDate.ofDayNumber days
    hour := inDay / 3600
    minute := inDay / 60 % 60
    second := inDay % 60 + instant.nanoseconds / Instant.nanosecondsPerSecond
    nanoseconds := instant.nanoseconds % Instant.nanosecondsPerSecond }

end CivilTime

end StatesLanguage
