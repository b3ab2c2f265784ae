import StatesLanguage.Instant
import StatesLanguage.Proofs.Calendar

/-!
# Times of day and instants

A time that a clock shows is one instant, and the instants that a clock shows are told apart
and ordered by their years, months, days, hours, minutes, seconds and nanoseconds.  A leap
second is shown as the second sixty, so it has to follow a second fifty-nine.
-/

namespace StatesLanguage

/-- Instants that a clock shows. -/
def Instant.OnClock (instant : Instant) : Prop :=
  instant.nanoseconds < nanosecondsPerSecond ∨
    (instant.nanoseconds < 2 * nanosecondsPerSecond ∧ instant.seconds % 60 = 59)

namespace CivilTime

/-- Times that a clock shows. -/
structure OnClock (time : CivilTime) : Prop where
  valid : time.isValid = true
  nanoseconds : time.nanoseconds < Instant.nanosecondsPerSecond

theorem isValid_iff {time : CivilTime} :
    time.isValid = true ↔ time.date.isValid = true ∧ time.hour ≤ 23 ∧ time.minute ≤ 59 ∧
      time.second ≤ 60 := by
  simp [isValid, and_assoc]

/-- The seconds of a day before a time, a leap second being the one before it. -/
def secondOfDay (time : CivilTime) : Nat :=
  (time.hour * 60 + time.minute) * 60 + min time.second 59

theorem secondOfDay_lt {time : CivilTime} (valid : time.isValid = true) :
    time.secondOfDay < 86400 := by
  obtain ⟨-, hour, minute, -⟩ := isValid_iff.mp valid
  unfold secondOfDay
  omega

theorem toInstant_eq (time : CivilTime) :
    time.toInstant = ⟨time.date.dayNumber * (86400 : Nat) + time.secondOfDay,
      time.nanoseconds + if time.second = 60 then Instant.nanosecondsPerSecond else 0⟩ := by
  rw [toInstant, secondOfDay]
  congr 2
  omega

theorem ofInstant_toInstant {time : CivilTime} (onClock : time.OnClock) :
    ofInstant time.toInstant = time := by
  obtain ⟨valid, within⟩ := onClock
  have inDay := secondOfDay_lt valid
  obtain ⟨real, hour, minute, second⟩ := isValid_iff.mp valid
  have days : (time.date.dayNumber * (86400 : Nat) + time.secondOfDay) / 86400 =
      time.date.dayNumber := by omega
  have rest : ((time.date.dayNumber * (86400 : Nat) + time.secondOfDay) % 86400).toNat =
      time.secondOfDay := by omega
  rw [ofInstant, toInstant_eq]
  simp only [days, rest, CalendarDate.ofDayNumber_dayNumber real]
  unfold secondOfDay
  unfold Instant.nanosecondsPerSecond at *
  obtain ⟨date, hour, minute, second, nanoseconds⟩ := time
  simp only [mk.injEq, true_and] at *
  split <;> omega

theorem onClock_toInstant {time : CivilTime} (onClock : time.OnClock) :
    time.toInstant.OnClock := by
  obtain ⟨valid, within⟩ := onClock
  rw [toInstant_eq, Instant.OnClock]
  unfold secondOfDay
  simp only
  split <;> omega

theorem onClock_ofInstant {instant : Instant} (onClock : instant.OnClock) :
    (ofInstant instant).OnClock := by
  obtain ⟨real, -⟩ := CalendarDate.isValid_and_dayNumber_ofDayNumber (instant.seconds / 86400)
  constructor
  · apply isValid_iff.mpr
    refine ⟨real, ?_, ?_, ?_⟩
    all_goals
      unfold Instant.OnClock Instant.nanosecondsPerSecond at onClock
      simp only [ofInstant, Instant.nanosecondsPerSecond]
      omega
  · exact Nat.mod_lt _ (by decide)

theorem toInstant_ofInstant {instant : Instant} (onClock : instant.OnClock) :
    (ofInstant instant).toInstant = instant := by
  obtain ⟨-, counted⟩ := CalendarDate.isValid_and_dayNumber_ofDayNumber (instant.seconds / 86400)
  unfold Instant.OnClock Instant.nanosecondsPerSecond at onClock
  obtain ⟨seconds, nanoseconds⟩ := instant
  rw [toInstant_eq]
  split
  all_goals
    rename_i leap
    simp only [ofInstant, secondOfDay, counted, Instant.mk.injEq,
      Instant.nanosecondsPerSecond] at leap onClock ⊢
    omega

/-- The instants that a clock shows are those of the times that it shows. -/
theorem exists_toInstant_iff {instant : Instant} :
    (∃ time : CivilTime, time.OnClock ∧ time.toInstant = instant) ↔ instant.OnClock := by
  constructor
  · intro shown
    obtain ⟨time, onClock, rfl⟩ := shown
    exact onClock_toInstant onClock
  · intro onClock
    exact ⟨ofInstant instant, onClock_ofInstant onClock, toInstant_ofInstant onClock⟩

end CivilTime

/-- The first second of a year. -/
def CalendarDate.yearStart (year : Int) : Int :=
  dayNumber ⟨year, 1, 1⟩ * 86400

/-- Instants that a clock shows from the start of a year to the end of another. -/
structure Instant.InYears (first last : Int) (instant : Instant) : Prop where
  onClock : instant.OnClock
  least : CalendarDate.yearStart first ≤ instant.seconds
  most : instant.seconds < CalendarDate.yearStart (last + 1)

theorem Instant.InYears.exists_time {first last : Int} {instant : Instant}
    (inYears : instant.InYears first last) :
    ∃ time : CivilTime, time.OnClock ∧ first ≤ time.date.year ∧ time.date.year ≤ last ∧
      time.toInstant = instant := by
  obtain ⟨onClock, least, most⟩ := inYears
  obtain ⟨time, shown, rfl⟩ := CivilTime.exists_toInstant_iff.mpr onClock
  have real := (CivilTime.isValid_iff.mp shown.valid).1
  have inDay := CivilTime.secondOfDay_lt shown.valid
  have earlier := CalendarDate.dayNumber_lt_newYear_iff real first
  have later := CalendarDate.dayNumber_lt_newYear_iff real (last + 1)
  have seconds : time.toInstant.seconds =
      time.date.dayNumber * (86400 : Nat) + time.secondOfDay := by
    rw [CivilTime.toInstant_eq]
  unfold CalendarDate.yearStart at least most
  exact ⟨time, shown, by omega, by omega, rfl⟩

namespace CivilTime

theorem compare_secondOfDay {left right : CivilTime} (leftValid : left.isValid = true)
    (rightValid : right.isValid = true) :
    compare left.secondOfDay right.secondOfDay =
      (compare left.hour right.hour).then ((compare left.minute right.minute).then
        (compare (min left.second 59) (min right.second 59))) := by
  obtain ⟨-, -, leftMinute, -⟩ := isValid_iff.mp leftValid
  obtain ⟨-, -, rightMinute, -⟩ := isValid_iff.mp rightValid
  rw [secondOfDay, secondOfDay, compare_mul_add_nat (by omega) (by omega),
    compare_mul_add_nat (by omega) (by omega), Ordering.then_assoc]

/-- The place of a second in its minute if every second could be a leap second; a leap
second comes after the one that it prolongs. -/
def secondStart (second : Nat) : Nat :=
  min second 59 * (2 * Instant.nanosecondsPerSecond) +
    if second = 60 then Instant.nanosecondsPerSecond else 0

theorem secondStart_add_le {earlier later : Nat} (before : earlier < later)
    (least : later ≤ 60) :
    (secondStart earlier : Int) + Instant.nanosecondsPerSecond ≤ secondStart later := by
  unfold secondStart Instant.nanosecondsPerSecond
  rw [if_neg (by omega)]
  split <;> omega

/-- Seconds fifty-nine and sixty share the whole seconds of their instants, which tell them
apart by nanoseconds. -/
theorem compare_second {left right : CivilTime} (leftOnClock : left.OnClock)
    (rightOnClock : right.OnClock) :
    (compare (min left.second 59) (min right.second 59)).then
        (compare left.toInstant.nanoseconds right.toInstant.nanoseconds) =
      (compare left.second right.second).then
        (compare left.nanoseconds right.nanoseconds) := by
  obtain ⟨leftValid, leftWithin⟩ := leftOnClock
  obtain ⟨rightValid, rightWithin⟩ := rightOnClock
  obtain ⟨-, -, -, leftLast⟩ := isValid_iff.mp leftValid
  obtain ⟨-, -, -, rightLast⟩ := isValid_iff.mp rightValid
  have place : ∀ time : CivilTime,
      ((min time.second 59 * (2 * Instant.nanosecondsPerSecond) +
        time.toInstant.nanoseconds : Nat) : Int) =
        secondStart time.second + time.nanoseconds := by
    intro time
    rw [toInstant_eq, secondStart]
    push_cast
    omega
  have inside : ∀ time : CivilTime, time.nanoseconds < Instant.nanosecondsPerSecond →
      time.toInstant.nanoseconds < 2 * Instant.nanosecondsPerSecond := by
    intro time within
    rw [toInstant_eq]
    change time.nanoseconds + (if time.second = 60 then _ else 0) < _
    split <;> omega
  rw [← compare_mul_add_nat (inside left leftWithin) (inside right rightWithin),
    ← compare_natCast, place, place]
  exact compare_in_blocks (fun second => (secondStart second : Int))
    (fun _ => (Instant.nanosecondsPerSecond : Int))
    (fun before => secondStart_add_le before rightLast)
    (fun after => secondStart_add_le after leftLast)
    (Int.ofNat_lt.mpr leftWithin) (Int.ofNat_lt.mpr rightWithin)

/-- Instants are in the order of what a clock and a calendar show. -/
theorem compare_toInstant {left right : CivilTime} (leftOnClock : left.OnClock)
    (rightOnClock : right.OnClock) :
    left.toInstant.compare right.toInstant =
      (compare left.date.year right.date.year).then
      ((compare left.date.month right.date.month).then
      ((compare left.date.day right.date.day).then
      ((compare left.hour right.hour).then
      ((compare left.minute right.minute).then
      ((compare left.second right.second).then
      (compare left.nanoseconds right.nanoseconds)))))) := by
  have leftDay := secondOfDay_lt leftOnClock.valid
  have rightDay := secondOfDay_lt rightOnClock.valid
  have seconds : compare left.toInstant.seconds right.toInstant.seconds =
      (compare left.date.dayNumber right.date.dayNumber).then
        (compare left.secondOfDay right.secondOfDay) := by
    rw [toInstant_eq, toInstant_eq]
    exact compare_mul_add leftDay rightDay
  have dates := CalendarDate.compare_dayNumber (isValid_iff.mp leftOnClock.valid).1
    (isValid_iff.mp rightOnClock.valid).1
  rw [Instant.compare, seconds, dates, compare_secondOfDay leftOnClock.valid rightOnClock.valid]
  simp only [Ordering.then_assoc]
  rw [compare_second leftOnClock rightOnClock]

end CivilTime

end StatesLanguage
