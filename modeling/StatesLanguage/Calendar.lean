/-!
# The Gregorian calendar

Dates of the calendar, extended to all years, and the count of days that they stand
for.  Day zero is the first of January 1970.
-/

namespace StatesLanguage

/-- A date: a year of any sign, a month and a day, both counted from one. -/
structure CalendarDate where
  year : Int
  month : Nat
  day : Nat
  deriving DecidableEq, Repr

namespace CalendarDate

/-- Whether a year has a twenty-ninth of February. -/
def isLeapYear (year : Int) : Bool :=
  year % 4 = 0 && (year % 100 ≠ 0 || year % 400 = 0)

def monthLengths (year : Int) : List Nat :=
  [31, if isLeapYear year then 29 else 28, 31, 30, 31, 30, 31, 31, 30, 31, 30, 31]

/-- The length of a month, zero for a month that no year has. -/
def monthLength (year : Int) (month : Nat) : Nat :=
  if month = 0 then 0 else (monthLengths year).getD (month - 1) 0

def isValid (date : CalendarDate) : Bool :=
  1 ≤ date.day && date.day ≤ monthLength date.year date.month

/-- The days from the first of January of the year one to that of another year. -/
def daysBeforeYear (year : Int) : Int :=
  365 * (year - 1) + (year - 1) / 4 - (year - 1) / 100 + (year - 1) / 400

/-- The days of a year before a month. -/
def daysBeforeMonth (year : Int) (month : Nat) : Nat :=
  ((monthLengths year).take (month - 1)).foldl (· + ·) 0

/-- The days from the first of January of the year one to day zero. -/
def epoch : Int := 719162

/-- The count of days that a date stands for. -/
def dayNumber (date : CalendarDate) : Int :=
  daysBeforeYear date.year + daysBeforeMonth date.year date.month + date.day - 1 - epoch

/-- The month and day that follow some days after the start of the months listed. -/
def monthAndDay (days : Nat) (month : Nat) : List Nat → Nat × Nat
  | [] => (month, days + 1)
  | length :: rest =>
      if days < length then (month, days + 1)
      else monthAndDay (days - length) (month + 1) rest

/-- The date that a count of days stands for: whole cycles of 400 years, then
centuries, then cycles of four years, then years. -/
def ofDayNumber (number : Int) : CalendarDate :=
  let days := number + epoch
  let inEra := (days % 146097).toNat
  let century := min 3 (inEra / 36524)
  let inCentury := inEra - century * 36524
  let cycle := inCentury / 1461
  let inCycle := inCentury - cycle * 1461
  let yearOfCycle := min 3 (inCycle / 365)
  let inYear := inCycle - yearOfCycle * 365
  let year := days / 146097 * 400 + (100 * century + 4 * cycle + yearOfCycle + 1 : Nat)
  let (month, day) := monthAndDay inYear 1 (monthLengths year)
  ⟨year, month, day⟩

end CalendarDate

end StatesLanguage
