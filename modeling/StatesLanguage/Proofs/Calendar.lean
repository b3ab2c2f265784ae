import Mathlib.Data.Int.Order.Basic
import StatesLanguage.Calendar
import StatesLanguage.Proofs.Lexicographic

/-!
# Counting days

Years and months are blocks of days that follow each other, so dates are counted in their
order.  Every count is that of exactly one date, the one that `CalendarDate.ofDayNumber`
finds.
-/

namespace StatesLanguage

namespace CalendarDate

def yearLength (year : Int) : Nat :=
  if isLeapYear year then 366 else 365

theorem isLeapYear_iff {year : Int} :
    isLeapYear year = true ↔ year % 4 = 0 ∧ (year % 100 ≠ 0 ∨ year % 400 = 0) := by
  simp [isLeapYear]

theorem daysBeforeYear_succ (year : Int) :
    daysBeforeYear (year + 1) = daysBeforeYear year + yearLength year := by
  unfold daysBeforeYear yearLength
  split
  · rename_i leap
    have divides := isLeapYear_iff.mp leap
    omega
  · rename_i common
    have divides := mt isLeapYear_iff.mpr common
    omega

theorem daysBeforeYear_add_yearLength_le {earlier later : Int} (before : earlier < later) :
    daysBeforeYear earlier + yearLength earlier ≤ daysBeforeYear later := by
  induction later, (show earlier + 1 ≤ later from before) using Int.leInduction with
  | base => rw [daysBeforeYear_succ]
  | succ later behind induction =>
      have shorter := induction behind
      rw [daysBeforeYear_succ]
      omega

theorem sum_monthLengths (year : Int) : (monthLengths year).sum = yearLength year := by
  unfold monthLengths yearLength
  split <;> rfl

theorem length_monthLengths (year : Int) : (monthLengths year).length = 12 := rfl

theorem daysBeforeMonth_eq_sum (year : Int) (month : Nat) :
    daysBeforeMonth year month = ((monthLengths year).take (month - 1)).sum := by
  rw [daysBeforeMonth, List.sum_eq_foldl]

theorem daysBeforeMonth_succ (year : Int) {month : Nat} (counted : 0 < month) :
    daysBeforeMonth year (month + 1) = daysBeforeMonth year month + monthLength year month := by
  obtain ⟨index, rfl⟩ := Nat.exists_eq_succ_of_ne_zero counted.ne'
  rw [daysBeforeMonth_eq_sum, daysBeforeMonth_eq_sum, monthLength, if_neg (by omega)]
  simp only [Nat.add_sub_cancel, Nat.succ_eq_add_one, List.take_add_one, List.sum_append,
    List.getD_eq_getElem?_getD]
  cases (monthLengths year)[index]? <;> simp

theorem daysBeforeMonth_add_monthLength_le {year : Int} {earlier later : Nat}
    (counted : 0 < earlier) (before : earlier < later) :
    daysBeforeMonth year earlier + monthLength year earlier ≤ daysBeforeMonth year later := by
  induction later, (show earlier + 1 ≤ later from before) using Nat.le_induction with
  | base => rw [daysBeforeMonth_succ year counted]
  | succ later behind induction =>
      have shorter := induction behind
      rw [daysBeforeMonth_succ year (by omega)]
      omega

theorem isValid_iff {date : CalendarDate} :
    date.isValid = true ↔ 1 ≤ date.day ∧ date.day ≤ monthLength date.year date.month := by
  simp [isValid]

theorem month_of_isValid {date : CalendarDate} (real : date.isValid = true) :
    1 ≤ date.month ∧ date.month ≤ 12 := by
  obtain ⟨counted, within⟩ := isValid_iff.mp real
  unfold monthLength at within
  split at within
  · omega
  · refine ⟨by omega, ?_⟩
    by_contra beyond
    rw [List.getD_eq_getElem?_getD, List.getElem?_eq_none (by rw [length_monthLengths]; omega)]
      at within
    exact absurd within (by simp; omega)

theorem day_of_isValid {date : CalendarDate} (real : date.isValid = true) : date.day ≤ 31 := by
  obtain ⟨-, within⟩ := isValid_iff.mp real
  have lengths : ∀ length ∈ monthLengths date.year, length ≤ 31 := by
    unfold monthLengths
    split <;> decide
  unfold monthLength at within
  split at within
  · omega
  · rw [List.getD_eq_getElem?_getD] at within
    cases found : (monthLengths date.year)[date.month - 1]? with
    | none =>
        rw [found, Option.getD_none] at within
        omega
    | some length =>
        rw [found, Option.getD_some] at within
        exact within.trans (lengths length (List.mem_of_getElem? found))

/-- The days of the year before a date. -/
def daysBefore (date : CalendarDate) : Nat :=
  daysBeforeMonth date.year date.month + (date.day - 1)

theorem daysBefore_lt {date : CalendarDate} (real : date.isValid = true) :
    date.daysBefore < yearLength date.year := by
  obtain ⟨counted, within⟩ := isValid_iff.mp real
  obtain ⟨least, most⟩ := month_of_isValid real
  have whole : daysBeforeMonth date.year date.month + monthLength date.year date.month ≤
      daysBeforeMonth date.year 13 := daysBeforeMonth_add_monthLength_le least (by omega)
  rw [daysBeforeMonth_eq_sum _ 13, List.take_of_length_le (by rfl), sum_monthLengths] at whole
  unfold daysBefore
  omega

theorem dayNumber_eq {date : CalendarDate} (real : date.isValid = true) :
    date.dayNumber = daysBeforeYear date.year + date.daysBefore - epoch := by
  obtain ⟨counted, -⟩ := isValid_iff.mp real
  unfold dayNumber daysBefore
  omega

theorem compare_daysBefore {left right : CalendarDate} (leftReal : left.isValid = true)
    (rightReal : right.isValid = true) (sameYear : left.year = right.year) :
    compare left.daysBefore right.daysBefore =
      (compare left.month right.month).then (compare left.day right.day) := by
  obtain ⟨leftCounted, leftWithin⟩ := isValid_iff.mp leftReal
  obtain ⟨rightCounted, rightWithin⟩ := isValid_iff.mp rightReal
  have days : compare (left.day - 1) (right.day - 1) = compare left.day right.day := by
    have shifted := compare_map (· + 1) (fun before => Nat.succ_lt_succ before)
      (left.day - 1) (right.day - 1)
    rwa [Nat.sub_add_cancel leftCounted, Nat.sub_add_cancel rightCounted, eq_comm] at shifted
  rw [← days, ← compare_natCast, daysBefore, daysBefore, sameYear]
  push_cast
  apply compare_in_blocks (fun month => (daysBeforeMonth right.year month : Int))
    (fun month => (monthLength right.year month : Int))
  · intro before
    exact_mod_cast daysBeforeMonth_add_monthLength_le (month_of_isValid leftReal).1 before
  · intro after
    exact_mod_cast daysBeforeMonth_add_monthLength_le (month_of_isValid rightReal).1 after
  · rw [sameYear] at leftWithin
    omega
  · omega

/-- Dates are counted in their order. -/
theorem compare_dayNumber {left right : CalendarDate} (leftReal : left.isValid = true)
    (rightReal : right.isValid = true) :
    compare left.dayNumber right.dayNumber =
      (compare left.year right.year).then
        ((compare left.month right.month).then (compare left.day right.day)) := by
  have years : compare left.dayNumber right.dayNumber =
      (compare left.year right.year).then (compare left.daysBefore right.daysBefore) := by
    rw [dayNumber_eq leftReal, dayNumber_eq rightReal,
      compare_map (· - epoch) (fun before => Int.sub_lt_sub_right before epoch)]
    exact compare_in_blocks daysBeforeYear (fun year => (yearLength year : Int))
      daysBeforeYear_add_yearLength_le daysBeforeYear_add_yearLength_le
      (Int.ofNat_lt.mpr (daysBefore_lt leftReal)) (Int.ofNat_lt.mpr (daysBefore_lt rightReal))
  rw [years]
  rcases lt_trichotomy left.year right.year with before | same | after
  · rw [compare_lt_iff_lt.mpr before, Ordering.lt_then, Ordering.lt_then]
  · rw [compare_daysBefore leftReal rightReal same]
  · rw [compare_gt_iff_gt.mpr after, Ordering.gt_then, Ordering.gt_then]

/-- Exactly the dates of earlier years come before a first of January. -/
theorem dayNumber_lt_newYear_iff {date : CalendarDate} (real : date.isValid = true)
    (year : Int) : date.dayNumber < dayNumber ⟨year, 1, 1⟩ ↔ date.year < year := by
  have inside := daysBefore_lt real
  have newYear : dayNumber ⟨year, 1, 1⟩ = daysBeforeYear year - epoch := by
    rw [dayNumber_eq (by rfl)]
    exact congrArg (· - epoch) (Int.add_zero _)
  rw [newYear, dayNumber_eq real]
  rcases lt_trichotomy date.year year with before | same | after
  · have apart := daysBeforeYear_add_yearLength_le before
    omega
  · rw [same]
    omega
  · have apart := daysBeforeYear_add_yearLength_le after
    omega

/-- No two dates are counted alike. -/
theorem eq_of_dayNumber_eq {left right : CalendarDate} (leftReal : left.isValid = true)
    (rightReal : right.isValid = true) (same : left.dayNumber = right.dayNumber) :
    left = right := by
  have equal := compare_dayNumber leftReal rightReal
  rw [same, compare_eq_iff_eq.mpr rfl, eq_comm, Ordering.then_eq_eq, Ordering.then_eq_eq,
    compare_eq_iff_eq, compare_eq_iff_eq, compare_eq_iff_eq] at equal
  obtain ⟨year, month, day⟩ := left
  obtain ⟨rfl, rfl, rfl⟩ := equal
  rfl

theorem monthAndDay_spec {lengths : List Nat} {days first : Nat} (within : days < lengths.sum) :
    ∃ index day, monthAndDay days first lengths = (first + index, day + 1) ∧
      index < lengths.length ∧ day < lengths.getD index 0 ∧
      days = (lengths.take index).sum + day := by
  induction lengths generalizing days first with
  | nil => simp at within
  | cons length rest induction =>
      rw [monthAndDay]
      by_cases here : days < length
      · refine ⟨0, days, ?_, ?_, ?_, ?_⟩ <;> simp [here]
      · rw [List.sum_cons] at within
        obtain ⟨index, day, found, inside, least, counted⟩ :=
          @induction (days - length) (first + 1) (by omega)
        refine ⟨index + 1, day, ?_, ?_, ?_, ?_⟩
        · rw [if_neg here, found, Nat.add_right_comm]
          rfl
        · rw [List.length_cons]
          omega
        · exact least
        · rw [List.take_succ_cons, List.sum_cons]
          omega

/-- The days before a year that is some years into a cycle of four, some such cycles into a
century and some centuries into a cycle of four hundred years. -/
theorem daysBeforeYear_of_cycles {era : Int} {century cycle yearOfCycle : Nat}
    (centuries : century ≤ 3) (cycles : cycle ≤ 24) (years : yearOfCycle ≤ 3) :
    daysBeforeYear (era * 400 + (100 * century + 4 * cycle + yearOfCycle + 1 : Nat)) =
      146097 * era + 36524 * century + 1461 * cycle + 365 * yearOfCycle := by
  unfold daysBeforeYear
  omega

/-- The last year of a cycle of four is a leap year, but not that of a century, except that
of the fourth. -/
theorem yearLength_of_cycles {era : Int} {century cycle yearOfCycle : Nat}
    (centuries : century ≤ 3) (cycles : cycle ≤ 24) (years : yearOfCycle ≤ 3) :
    yearLength (era * 400 + (100 * century + 4 * cycle + yearOfCycle + 1 : Nat)) =
      if yearOfCycle = 3 ∧ (cycle < 24 ∨ century = 3) then 366 else 365 := by
  unfold yearLength
  congr 1
  generalize counted : era * 400 + (100 * century + 4 * cycle + yearOfCycle + 1 : Nat) = year
  have fourth : year % 4 = 0 ↔ yearOfCycle = 3 := by omega
  have hundredth : year % 100 = 0 ↔ yearOfCycle = 3 ∧ cycle = 24 := by omega
  have last : year % 400 = 0 ↔ yearOfCycle = 3 ∧ cycle = 24 ∧ century = 3 := by omega
  clear counted
  rw [isLeapYear_iff, eq_iff_iff, ne_eq, fourth, hundredth, last]
  omega

/-- The last century of four and the last year of a cycle take the day that is left over. -/
theorem days_in_cycles {days century inCentury cycle inCycle yearOfCycle inYear : Nat}
    (inside : days < 146097) (centuries : century = min 3 (days / 36524))
    (afterCenturies : inCentury = days - century * 36524) (cycles : cycle = inCentury / 1461)
    (afterCycles : inCycle = inCentury - cycle * 1461)
    (years : yearOfCycle = min 3 (inCycle / 365))
    (afterYears : inYear = inCycle - yearOfCycle * 365) :
    century ≤ 3 ∧ cycle ≤ 24 ∧ yearOfCycle ≤ 3 ∧
      days = 36524 * century + 1461 * cycle + 365 * yearOfCycle + inYear ∧
      inYear < if yearOfCycle = 3 ∧ (cycle < 24 ∨ century = 3) then 366 else 365 := by
  have shortCentury : inCentury < 36525 := by omega
  have lastCentury : 36524 ≤ inCentury → century = 3 := by omega
  have shortCycle : inCycle < 1461 := by omega
  have lastYear : inYear = 365 → yearOfCycle = 3 ∧ inCycle = 1460 := by omega
  refine ⟨by omega, by omega, by omega, by omega, ?_⟩
  split <;> omega

theorem ofDayNumber_spec (number : Int) :
    ∃ year inYear month day, ofDayNumber number = ⟨year, month, day⟩ ∧
      monthAndDay inYear 1 (monthLengths year) = (month, day) ∧
      inYear < yearLength year ∧ daysBeforeYear year + inYear = number + epoch := by
  have days := Int.emod_add_mul_ediv (number + epoch) 146097
  have nonnegative := Int.emod_nonneg (number + epoch) (show (146097 : Int) ≠ 0 by decide)
  have inside := Int.emod_lt_of_pos (number + epoch) (show (0 : Int) < 146097 by decide)
  have inEra : ((number + epoch) % 146097).toNat < 146097 := by omega
  obtain ⟨centuries, cycles, years, counted, within⟩ :=
    days_in_cycles inEra rfl rfl rfl rfl rfl rfl
  refine ⟨_, _, _, _, rfl, Prod.mk.eta.symm, ?_, ?_⟩
  · rwa [yearLength_of_cycles centuries cycles years]
  · rw [daysBeforeYear_of_cycles centuries cycles years]
    omega

/-- Every count of days has a date. -/
theorem isValid_and_dayNumber_ofDayNumber (number : Int) :
    (ofDayNumber number).isValid = true ∧ (ofDayNumber number).dayNumber = number := by
  obtain ⟨year, inYear, month, day, found, place, inside, counted⟩ := ofDayNumber_spec number
  rw [← sum_monthLengths] at inside
  obtain ⟨index, before, monthDay, _, least, inMonth⟩ := @monthAndDay_spec _ inYear 1 inside
  obtain ⟨rfl, rfl⟩ := Prod.mk.inj (place.symm.trans monthDay)
  rw [found]
  have real : (⟨year, 1 + index, before + 1⟩ : CalendarDate).isValid = true := by
    apply isValid_iff.mpr
    constructor
    · exact Nat.le_add_left 1 before
    · change before + 1 ≤ monthLength year (1 + index)
      rwa [monthLength, if_neg (by omega), Nat.add_sub_cancel_left]
  refine ⟨real, ?_⟩
  rw [dayNumber_eq real, daysBefore, daysBeforeMonth_eq_sum, Nat.add_sub_cancel_left,
    Nat.add_sub_cancel, ← inMonth]
  change daysBeforeYear year + inYear - epoch = number
  omega

/-- The date of a count of days is the one that is counted so. -/
theorem ofDayNumber_dayNumber {date : CalendarDate} (real : date.isValid = true) :
    ofDayNumber date.dayNumber = date := by
  obtain ⟨found, counted⟩ := isValid_and_dayNumber_ofDayNumber date.dayNumber
  exact eq_of_dayNumber_eq found real counted

end CalendarDate

end StatesLanguage
