import StatesLanguage.Proofs.TimePrinting

/-!
# Timestamps in the order of their texts

The fields of a timestamp stand in its text from the year down to the fraction, each in a
fixed number of digits.  So texts with equally long fractions, all in universal time, are in
the order of the instants that they name, and comparing them as texts or as timestamps is
the same.
-/

namespace StatesLanguage

namespace Timestamp

theorem Field.compare_append {width leftNumber rightNumber : Nat} {left right : List Char}
    (leftField : Field width left leftNumber) (rightField : Field width right rightNumber)
    (leftRest rightRest : List Char) :
    compare (left ++ leftRest) (right ++ rightRest) =
      (compare leftNumber rightNumber).then (compare leftRest rightRest) := by
  have level : left.length = right.length := leftField.length.trans rightField.length.symm
  rw [StatesLanguage.compare_append level, leftField.numeral.compare_eq rightField.numeral level]

theorem compare_nanoseconds {places : Nat} (few : places ≤ 9) (left right : Nat) :
    compare (left * 10 ^ 9 / 10 ^ places) (right * 10 ^ 9 / 10 ^ places) =
      compare left right := by
  rw [nanoseconds_of_few few, nanoseconds_of_few few]
  apply compare_map (· * 10 ^ (9 - places))
  intro lower upper before
  exact Nat.mul_lt_mul_of_pos_right before (Nat.pow_pos (by decide))

/-- Fractions to as many places, none of which is ignored. -/
theorem WritesFraction.compare_append {left right : List Char}
    {places leftNanoseconds rightNanoseconds : Nat}
    (leftWrites : WritesFraction left places leftNanoseconds)
    (rightWrites : WritesFraction right places rightNanoseconds) (few : places ≤ 9)
    (leftRest rightRest : List Char) :
    compare (left ++ leftRest) (right ++ rightRest) =
      (compare leftNanoseconds rightNanoseconds).then (compare leftRest rightRest) := by
  generalize same : places = rightPlaces at rightWrites
  cases leftWrites with
  | absent =>
      cases rightWrites with
      | absent => rfl
      | digits numeral => exact absurd (List.length_eq_zero_iff.mp same.symm) numeral.ne_nil
  | digits leftNumeral =>
      cases rightWrites with
      | absent => exact absurd (List.length_eq_zero_iff.mp same) leftNumeral.ne_nil
      | digits rightNumeral =>
          rw [List.cons_append, List.cons_append, compare_cons_same,
            StatesLanguage.compare_append same, leftNumeral.compare_eq rightNumeral same, same,
            compare_nanoseconds (same ▸ few)]

/-- Texts to as many places are in the order of their instants. -/
theorem Writes.compare_append {left right : List Char} {places : Nat}
    {leftTime rightTime : CivilTime} (leftWrites : Writes left places leftTime)
    (rightWrites : Writes right places rightTime) (few : places ≤ 9)
    (leftValid : leftTime.isValid = true) (rightValid : rightTime.isValid = true)
    (zone : List Char) :
    compare (left ++ zone) (right ++ zone) =
      leftTime.toInstant.compare rightTime.toInstant := by
  rw [CivilTime.compare_toInstant (leftWrites.onClock leftValid)
    (rightWrites.onClock rightValid)]
  cases leftWrites with
  | fields leftYear leftMonth leftDay leftHour leftMinute leftSecond leftFraction =>
      cases rightWrites with
      | fields rightYear rightMonth rightDay rightHour rightMinute rightSecond rightFraction =>
          rw [layout_append, layout_append, layout, layout,
            leftYear.compare_append rightYear, compare_cons_same,
            leftMonth.compare_append rightMonth, compare_cons_same,
            leftDay.compare_append rightDay, compare_cons_same,
            leftHour.compare_append rightHour, compare_cons_same,
            leftMinute.compare_append rightMinute, compare_cons_same,
            leftSecond.compare_append rightSecond,
            leftFraction.compare_append rightFraction few,
            Std.compare_self, Ordering.then_eq, compare_natCast]

/-- An accepted text in universal time, with a year of four digits, a date that exists and
the second to some places. -/
structure Canonical (text : String) (places : Nat) : Prop where
  accepted : isTimestamp text = true
  spelled : ∃ base time, text = base ++ "Z" ∧ Writes base.toList places time ∧
    time.date.isValid = true

theorem Canonical.exists_time {text : String} {places : Nat}
    (canonical : Canonical text places) :
    ∃ base time, text = base ++ "Z" ∧ Writes base.toList places time ∧
      time.isValid = true := by
  obtain ⟨accepted, base, time, rfl, writes, real⟩ := canonical
  have inShape := (writes.isTimestamp_iff (.inr (by rfl))).mp accepted
  exact ⟨base, time, rfl, writes, inShape.isValid real⟩

/-- Except in a leap second, printed texts are canonical. -/
theorem canonical_text {time : CivilTime} (onClock : time.OnClock)
    (least : 0 ≤ time.date.year) (most : time.date.year ≤ 9999) (plain : time.second ≤ 59) :
    Canonical (text time.toInstant) 3 := by
  constructor
  · rw [isTimestamp_text_toInstant onClock least most, CivilTime.toInstant_eq]
    have within := onClock.nanoseconds
    rwa [if_neg (by omega)]
  · exact ⟨printed time, time.truncateToMilliseconds, text_toInstant onClock least most,
      writes_printed onClock least most, (CivilTime.isValid_iff.mp onClock.valid).1⟩

/-- Comparing canonical texts as timestamps is comparing them as texts. -/
theorem verdicts_of_canonical {left right : String} {places : Nat}
    (leftCanonical : Canonical left places) (rightCanonical : Canonical right places)
    (few : places ≤ 9) {input context : Document} {path : String} {operand : Rule.Operand}
    (finds : Rule.Finds input context path operand (.string left) (.string right))
    (relation : Rule.Relation) :
    Rule.Kind.string.verdict relation input context path operand =
        .ok (relation.holds (compare left right)) ∧
      Rule.Kind.timestamp.verdict relation input context path operand =
        .ok (relation.holds (compare left right)) := by
  obtain ⟨leftBase, leftTime, rfl, leftWrites, leftValid⟩ := leftCanonical.exists_time
  obtain ⟨rightBase, rightTime, rfl, rightWrites, rightValid⟩ := rightCanonical.exists_time
  have ordered : leftTime.toInstant.compare rightTime.toInstant =
      compare (leftBase ++ "Z") (rightBase ++ "Z") := by
    rw [Text.compare_toList, String.toList_append, String.toList_append]
    exact (leftWrites.compare_append rightWrites few leftValid rightValid _).symm
  constructor
  · exact finds.string_verdict_eq relation
  · rw [← ordered]
    exact finds.timestamp_verdict_eq (leftWrites.read?_zulu leftValid)
      (rightWrites.read?_zulu rightValid) relation

theorem verdicts_after_leap_day :
    Canonical "2016-02-29T23:59:59.999Z" 3 ∧ Canonical "2016-03-01T00:00:00.000Z" 3 ∧
      Rule.Kind.string.verdict .lessThan
          (Rule.delivery "2016-02-29T23:59:59.999Z" "2016-03-01T00:00:00.000Z") .null "$.sent"
          (.path "$.due") = .ok true ∧
      Rule.Kind.timestamp.verdict .lessThan
          (Rule.delivery "2016-02-29T23:59:59.999Z" "2016-03-01T00:00:00.000Z") .null "$.sent"
          (.path "$.due") = .ok true := by
  have february : Canonical (text ⟨1456790399, 999000000⟩) 3 :=
    @canonical_text ⟨⟨2016, 2, 29⟩, 23, 59, 59, 999000000⟩ ⟨by decide, by decide⟩ (by decide)
      (by decide) (by decide)
  have march : Canonical (text ⟨1456790400, 0⟩) 3 :=
    @canonical_text ⟨⟨2016, 3, 1⟩, 0, 0, 0, 0⟩ ⟨by decide, by decide⟩ (by decide) (by decide)
      (by decide)
  have februaryText : text ⟨1456790399, 999000000⟩ = "2016-02-29T23:59:59.999Z" := by
    decide +kernel
  have marchText : text ⟨1456790400, 0⟩ = "2016-03-01T00:00:00.000Z" := by decide +kernel
  rw [februaryText] at february
  rw [marchText] at march
  have finds := Rule.delivery_finds "2016-02-29T23:59:59.999Z" "2016-03-01T00:00:00.000Z"
  exact ⟨february, march, verdicts_of_canonical february march (by decide) finds .lessThan⟩

end Timestamp

end StatesLanguage
