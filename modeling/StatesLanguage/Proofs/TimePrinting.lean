import StatesLanguage.Execution.Context
import StatesLanguage.Proofs.TimeShape

/-!
# Printed timestamps

In the years from 0 to 9999 the text of an instant has a year of four digits and is in
universal time.  It is read as the instant to the whole millisecond, so the times that the
contexts of executions hold are compared as the instants that they were made of.
-/

namespace StatesLanguage

namespace CivilTime

def truncateToMilliseconds (time : CivilTime) : CivilTime :=
  { time with nanoseconds := time.nanoseconds / 1000000 * 1000000 }

/-- A leap second begins at a whole millisecond. -/
theorem toInstant_truncateToMilliseconds (time : CivilTime) :
    time.truncateToMilliseconds.toInstant = time.toInstant.truncateToMilliseconds := by
  rw [toInstant, toInstant, truncateToMilliseconds, Instant.truncateToMilliseconds,
    Instant.nanosecondsPerSecond]
  simp only [Instant.mk.injEq, true_and]
  split <;> omega

end CivilTime

namespace Timestamp

theorem numeral_zero_cons {text : List Char} {number : Nat}
    (numeral : Text.Numeral text number) : Text.Numeral ('0' :: text) number := by
  induction numeral with
  | @digit character value counts =>
      have padded := Text.Numeral.more (.digit (by rfl : Text.digit? '0' = some 0)) counts
      rwa [Nat.mul_zero, Nat.zero_add] at padded
  | more before counts induction => exact .more induction counts

theorem field_padded {width value : Nat} (present : 0 < width) (fits : value < 10 ^ width) :
    Field width (padded width value) value := by
  have short : (Number.digitText value).length ≤ width :=
    (Nat.length_toDigits_le_iff (by decide) present).mpr fits
  constructor
  · rw [padded]
    induction width - (Number.digitText value).length with
    | zero => exact Text.numeral_digitText value
    | succ missing induction => exact numeral_zero_cons induction
  · rw [padded, List.length_append, List.length_replicate, Nat.sub_add_cancel short]

/-- The text of a date and a time of day before the `Z`. -/
def printed (time : CivilTime) : String :=
  .ofList (layout (padded 4 time.date.year.toNat) (padded 2 time.date.month)
    (padded 2 time.date.day) (padded 2 time.hour) (padded 2 time.minute)
    (padded 2 time.second) ('.' :: padded 3 (time.nanoseconds / 1000000)))

theorem civilText_eq {time : CivilTime} (least : 0 ≤ time.date.year)
    (most : time.date.year ≤ 9999) : civilText time = (printed time).toList ++ ['Z'] := by
  rw [civilText, yearText, if_pos ⟨least, most⟩, printed, String.toList_ofList, layout]
  simp only [List.append_assoc, List.cons_append]

theorem writes_printed {time : CivilTime} (onClock : time.OnClock)
    (least : 0 ≤ time.date.year) (most : time.date.year ≤ 9999) :
    Writes (printed time).toList 3 time.truncateToMilliseconds := by
  obtain ⟨real, hour, minute, second⟩ := CivilTime.isValid_iff.mp onClock.valid
  obtain ⟨-, month⟩ := CalendarDate.month_of_isValid real
  have day := CalendarDate.day_of_isValid real
  have within := onClock.nanoseconds
  have milliseconds : Field 3 (padded 3 (time.nanoseconds / 1000000))
      (time.nanoseconds / 1000000) := by
    apply field_padded (by decide)
    unfold Instant.nanosecondsPerSecond at within
    omega
  have fraction := WritesFraction.digits milliseconds.numeral
  rw [milliseconds.length, nanoseconds_of_few (by decide)] at fraction
  have year : Field 4 (padded 4 time.date.year.toNat) time.date.year.toNat :=
    field_padded (by decide) (by omega)
  have two : ∀ {value : Nat}, value ≤ 99 → Field 2 (padded 2 value) value := by
    intro value small
    exact field_padded Nat.two_pos (Nat.lt_succ_of_le small)
  have writes := Writes.fields year (two (month.trans (by decide))) (two (day.trans (by decide)))
    (two (hour.trans (by decide))) (two (minute.trans (by decide)))
    (two (second.trans (by decide))) fraction
  rw [Int.toNat_of_nonneg least] at writes
  rwa [printed, String.toList_ofList]

theorem text_toInstant {time : CivilTime} (onClock : time.OnClock)
    (least : 0 ≤ time.date.year) (most : time.date.year ≤ 9999) :
    text time.toInstant = printed time ++ "Z" := by
  rw [text, CivilTime.ofInstant_toInstant onClock, civilText_eq least most,
    String.ofList_append, String.ofList_toList]

theorem read?_text_toInstant {time : CivilTime} (onClock : time.OnClock)
    (least : 0 ≤ time.date.year) (most : time.date.year ≤ 9999) :
    read? (text time.toInstant) = some time.toInstant.truncateToMilliseconds := by
  rw [text_toInstant onClock least most, ← CivilTime.toInstant_truncateToMilliseconds]
  exact (writes_printed onClock least most).read?_zulu onClock.valid

/-- The type test knows no leap seconds. -/
theorem isTimestamp_text_toInstant {time : CivilTime} (onClock : time.OnClock)
    (least : 0 ≤ time.date.year) (most : time.date.year ≤ 9999) :
    isTimestamp (text time.toInstant) = true ↔
      time.toInstant.nanoseconds < Instant.nanosecondsPerSecond := by
  rw [text_toInstant onClock least most,
    (writes_printed onClock least most).isTimestamp_iff (.inr (by rfl))]
  obtain ⟨real, hour, minute, second⟩ := CivilTime.isValid_iff.mp onClock.valid
  obtain ⟨counted, -⟩ := CalendarDate.isValid_iff.mp real
  have within := onClock.nanoseconds
  have held : time.toInstant.nanoseconds =
      time.nanoseconds + if time.second = 60 then Instant.nanosecondsPerSecond else 0 := by
    rw [CivilTime.toInstant_eq]
  rw [held]
  constructor
  · intro inShape
    have last : time.second ≤ 59 := inShape.second
    rw [if_neg (by omega)]
    exact within
  · intro plain
    have last : time.second ≤ 59 := by
      split at plain <;> omega
    exact ⟨CalendarDate.month_of_isValid real, ⟨counted, CalendarDate.day_of_isValid real⟩,
      hour, minute, last⟩

end Timestamp

theorem Instant.InYears.read?_text {instant : Instant} (inYears : instant.InYears 0 9999) :
    Timestamp.read? (Timestamp.text instant) = some instant.truncateToMilliseconds := by
  obtain ⟨time, onClock, least, most, rfl⟩ := inYears.exists_time
  exact Timestamp.read?_text_toInstant onClock least most

theorem Instant.InYears.isTimestamp_text {instant : Instant} (inYears : instant.InYears 0 9999) :
    Timestamp.isTimestamp (Timestamp.text instant) = true ↔
      instant.nanoseconds < nanosecondsPerSecond := by
  obtain ⟨time, onClock, least, most, rfl⟩ := inYears.exists_time
  exact Timestamp.isTimestamp_text_toInstant onClock least most

namespace ExecutionContext

theorem resolve_startTime (context : ExecutionContext) (state : String) (entered : Instant)
    (input : Document) :
    input.resolve "$$.Execution.StartTime" (context.forState state entered) =
      .ok (.string (Timestamp.text context.startTime)) := by
  rfl

/-- The start time in a context is read back to the whole millisecond and compared so. -/
theorem startTime_read_back {context : ExecutionContext}
    (inYears : context.startTime.InYears 0 9999) (state : String) (entered : Instant)
    (input : Document) :
    input.resolve "$$.Execution.StartTime" (context.forState state entered) =
        .ok (.string (Timestamp.text context.startTime)) ∧
      Timestamp.read? (Timestamp.text context.startTime) =
        some context.startTime.truncateToMilliseconds ∧
      (Timestamp.isTimestamp (Timestamp.text context.startTime) = true ↔
        context.startTime.nanoseconds < Instant.nanosecondsPerSecond) ∧
      ∀ {other : ExecutionContext}, other.startTime.InYears 0 9999 →
        ∀ {compared scope path operand},
          Rule.Finds compared scope path operand
            (.string (Timestamp.text context.startTime))
            (.string (Timestamp.text other.startTime)) →
          ∀ relation, Rule.Kind.timestamp.verdict relation compared scope path operand =
            .ok (relation.holds (context.startTime.truncateToMilliseconds.compare
              other.startTime.truncateToMilliseconds)) := by
  refine ⟨resolve_startTime context state entered input, inYears.read?_text,
    inYears.isTimestamp_text, ?_⟩
  intro other otherInYears compared scope path operand finds relation
  exact finds.timestamp_verdict_eq inYears.read?_text otherInYears.read?_text relation

/-- A context of an execution that starts at some instant. -/
def startedAt (startTime : Instant) : ExecutionContext :=
  ⟨"run", "desk", .empty, startTime⟩

/-- The end of a leap second and the start of the year after it. -/
theorem startTimes_after_leap_second :
    (startedAt ⟨1483228799, 1999999999⟩).startTime.InYears 0 9999 ∧
      (startedAt ⟨1483228800, 1⟩).startTime.InYears 0 9999 ∧
      Document.empty.resolve "$$.Execution.StartTime"
          ((startedAt ⟨1483228799, 1999999999⟩).forState "Ask" ⟨1483228800, 0⟩) =
        .ok (.string "2016-12-31T23:59:60.999Z") ∧
      Timestamp.read? "2016-12-31T23:59:60.999Z" = some ⟨1483228799, 1999000000⟩ ∧
      ¬Timestamp.isTimestamp "2016-12-31T23:59:60.999Z" = true ∧
      Rule.Kind.timestamp.verdict .lessThan
        (Rule.delivery "2016-12-31T23:59:60.999Z" "2017-01-01T00:00:00.000Z") .null "$.sent"
        (.path "$.due") = .ok true := by
  have leap : (startedAt ⟨1483228799, 1999999999⟩).startTime.InYears 0 9999 :=
    ⟨.inr ⟨by decide, by rfl⟩, by decide, by decide⟩
  have next : (startedAt ⟨1483228800, 1⟩).startTime.InYears 0 9999 :=
    ⟨.inl (by decide), by decide, by decide⟩
  have leapText : Timestamp.text (startedAt ⟨1483228799, 1999999999⟩).startTime =
      "2016-12-31T23:59:60.999Z" := by decide +kernel
  have nextText : Timestamp.text (startedAt ⟨1483228800, 1⟩).startTime =
      "2017-01-01T00:00:00.000Z" := by decide +kernel
  obtain ⟨resolved, read, accepted, compared⟩ :=
    startTime_read_back leap "Ask" ⟨1483228800, 0⟩ .empty
  have finds := Rule.delivery_finds "2016-12-31T23:59:60.999Z" "2017-01-01T00:00:00.000Z"
  rw [leapText] at resolved read accepted compared
  rw [← nextText] at finds
  refine ⟨leap, next, resolved, read, ?_, ?_⟩
  · rw [accepted]
    decide
  · rw [← nextText]
    exact compared next finds .lessThan

end ExecutionContext

end StatesLanguage
