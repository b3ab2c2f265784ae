import StatesLanguage.Proofs.Spelling

/-!
# Shapes of timestamps

The type test for timestamps looks at the ranges of the fields, not at the calendar.  A text
that it accepts, with a year of four digits, is the text of a date and a time of day, perhaps
before a `Z`; so it names an instant as soon as the calendar has the date.
-/

namespace StatesLanguage

namespace Timestamp

/-- The fields that the type test accepts. -/
structure InShape (time : CivilTime) : Prop where
  month : 1 ≤ time.date.month ∧ time.date.month ≤ 12
  day : 1 ≤ time.date.day ∧ time.date.day ≤ 31
  hour : time.hour ≤ 23
  minute : time.minute ≤ 59
  second : time.second ≤ 59

theorem InShape.isValid {time : CivilTime} (inShape : InShape time)
    (real : time.date.isValid = true) : time.isValid = true :=
  CivilTime.isValid_iff.mpr
    ⟨real, inShape.hour, inShape.minute, Nat.le_succ_of_le inShape.second⟩

/-- What may stand for universal time behind a time of day. -/
def Universal (zone : List Char) : Prop :=
  zone = [] ∨ zone = ['Z']

theorem Universal.endsFraction {zone : List Char} (universal : Universal zone) :
    EndsFraction zone := by
  obtain rfl | rfl := universal
  · exact endsFraction_nil
  · exact endsFraction_cons (by decide) rfl

theorem isShapedEnd_append {fraction zone : List Char} {places nanoseconds : Nat}
    (writes : WritesFraction fraction places nanoseconds) (universal : Universal zone) :
    isShapedEnd (fraction ++ zone) = true := by
  rw [isShapedEnd, writes.readFraction_append universal.endsFraction]
  obtain rfl | rfl := universal
  · rfl
  · rfl

theorem exists_of_isShapedEnd {text : List Char} (shaped : isShapedEnd text = true) :
    ∃ fraction places nanoseconds zone, text = fraction ++ zone ∧
      WritesFraction fraction places nanoseconds ∧ Universal zone := by
  unfold isShapedEnd at shaped
  split at shaped
  · rename_i nanoseconds read
    obtain ⟨fraction, places, split, writes⟩ := readFraction_eq_some read
    exact ⟨fraction, places, nanoseconds, [], split, writes, .inl rfl⟩
  · rename_i nanoseconds read
    obtain ⟨fraction, places, split, writes⟩ := readFraction_eq_some read
    exact ⟨fraction, places, nanoseconds, ['Z'], split, writes, .inr rfl⟩
  · cases shaped

theorem any_bind_of_read {α β : Type} {read : Option α} {value : α} {next : α → Option β}
    {test : β → Bool} (reads : read = some value) :
    (read >>= next).any test = (next value).any test := by
  rw [reads]
  rfl

theorem any_of_range {α : Type} {range : Prop} [Decidable range] {read : Option α} {value : α}
    {test : α → Bool} (reads : read = if range then some value else none) :
    read.any test = true ↔ range ∧ test value = true := by
  rw [reads]
  split
  · rename_i within
    exact (and_iff_right within).symm
  · rename_i outside
    exact iff_of_false Bool.false_ne_true fun both => outside both.1

theorem any_bind_of_range {α β : Type} {range : Prop} [Decidable range] {read : Option α}
    {value : α} {next : α → Option β} {test : β → Bool}
    (reads : read = if range then some value else none) :
    (read >>= next).any test = true ↔ range ∧ (next value).any test = true := by
  rw [Option.bind_eq_bind, Option.any_bind, any_of_range reads]
  rfl

theorem readField_bind_eq_some {β : Type} {least most : Nat} {text : List Char}
    {next : List Char → Option β} {result : β}
    (read : (readField least most text >>= next) = some result) :
    ∃ field number rest, text = field ++ rest ∧ Field 2 field number ∧
      next rest = some result := by
  obtain ⟨rest, first, goesOn⟩ := Option.bind_eq_some_iff.mp read
  obtain ⟨field, number, split, written⟩ := readField_eq_some first
  exact ⟨field, number, rest, split, written, goesOn⟩

theorem expect_bind_eq_some {β : Type} {character : Char} {text : List Char}
    {next : List Char → Option β} {result : β}
    (read : (expect character text >>= next) = some result) :
    ∃ rest, text = character :: rest ∧ next rest = some result := by
  obtain ⟨rest, first, goesOn⟩ := Option.bind_eq_some_iff.mp read
  exact ⟨rest, expect_eq_some first, goesOn⟩

section

variable {text : String} {year month day hour minute second rest : List Char}
  {y m d h min s : Nat}

theorem readShapedYear_dash (years : Field 4 year y) (rest : List Char) :
    readShapedYear (year ++ '-' :: rest) = some ('-' :: rest) := by
  apply years.readShapedYear_append
  intro character first
  cases first
  rfl

theorem isTimestamp_layout (years : Field 4 year y) (months : Field 2 month m)
    (days : Field 2 day d) (hours : Field 2 hour h) (minutes : Field 2 minute min)
    (seconds : Field 2 second s)
    (split : text.toList = layout year month day hour minute second rest) :
    isTimestamp text = true ↔ (1 ≤ m ∧ m ≤ 12) ∧ (1 ≤ d ∧ d ≤ 31) ∧ (0 ≤ h ∧ h ≤ 23) ∧
      (0 ≤ min ∧ min ≤ 59) ∧ (0 ≤ s ∧ s ≤ 59) ∧ isShapedEnd rest = true := by
  unfold isTimestamp
  rw [split, layout]
  rw [any_bind_of_read (readShapedYear_dash years _), any_bind_of_read (expect_cons '-' _),
    any_bind_of_range (months.readField_append _), any_bind_of_read (expect_cons '-' _),
    any_bind_of_range (days.readField_append _), any_bind_of_read (expect_cons 'T' _),
    any_bind_of_range (hours.readField_append _), any_bind_of_read (expect_cons ':' _),
    any_bind_of_range (minutes.readField_append _), any_bind_of_read (expect_cons ':' _),
    any_of_range (seconds.readField_append _)]

theorem exists_layout (accepted : isTimestamp text = true) (years : Field 4 year y)
    (split : text.toList = year ++ '-' :: rest) :
    ∃ month day hour minute second ending m d h min s,
      Field 2 month m ∧ Field 2 day d ∧ Field 2 hour h ∧ Field 2 minute min ∧
      Field 2 second s ∧ text.toList = layout year month day hour minute second ending := by
  unfold isTimestamp at accepted
  rw [split, any_bind_of_read (readShapedYear_dash years _),
    any_bind_of_read (expect_cons '-' _), Option.any_eq_true] at accepted
  obtain ⟨ending, read, -⟩ := accepted
  obtain ⟨month, m, _, rfl, months, afterMonth⟩ := readField_bind_eq_some read
  obtain ⟨_, rfl, beforeDay⟩ := expect_bind_eq_some afterMonth
  obtain ⟨day, d, _, rfl, days, afterDay⟩ := readField_bind_eq_some beforeDay
  obtain ⟨_, rfl, beforeHour⟩ := expect_bind_eq_some afterDay
  obtain ⟨hour, h, _, rfl, hours, afterHour⟩ := readField_bind_eq_some beforeHour
  obtain ⟨_, rfl, beforeMinute⟩ := expect_bind_eq_some afterHour
  obtain ⟨minute, min, _, rfl, minutes, afterMinute⟩ := readField_bind_eq_some beforeMinute
  obtain ⟨_, rfl, beforeSecond⟩ := expect_bind_eq_some afterMinute
  obtain ⟨second, s, rfl, seconds⟩ := readField_eq_some beforeSecond
  exact ⟨month, day, hour, minute, second, ending, m, d, h, min, s, months, days, hours,
    minutes, seconds, split⟩

end

theorem Writes.isTimestamp_iff {base zone : String} {places : Nat} {time : CivilTime}
    (writes : Writes base.toList places time) (universal : Universal zone.toList) :
    isTimestamp (base ++ zone) = true ↔ InShape time := by
  have split : (base ++ zone).toList = base.toList ++ zone.toList := String.toList_append
  generalize base.toList = characters at writes split
  cases writes with
  | fields years months days hours minutes seconds rest =>
      rw [layout_append] at split
      rw [isTimestamp_layout years months days hours minutes seconds split]
      have ended := isShapedEnd_append rest universal
      constructor
      · intro ranges
        obtain ⟨month, day, hour, minute, second, -⟩ := ranges
        exact ⟨month, day, hour.2, minute.2, second.2⟩
      · intro inShape
        exact ⟨inShape.month, inShape.day, ⟨Nat.zero_le _, inShape.hour⟩,
          ⟨Nat.zero_le _, inShape.minute⟩, ⟨Nat.zero_le _, inShape.second⟩, ended⟩

/-- A text that begins with a year of four digits, without a sign. -/
def FourDigitYear (text : String) : Prop :=
  ∃ year y rest, Field 4 year y ∧ text.toList = year ++ '-' :: rest

theorem exists_writes {text : String} (accepted : isTimestamp text = true)
    (fourDigits : FourDigitYear text) :
    ∃ base zone places time, text = base ++ zone ∧ Universal zone.toList ∧
      Writes base.toList places time ∧ InShape time := by
  obtain ⟨year, y, rest, years, split⟩ := fourDigits
  obtain ⟨month, day, hour, minute, second, ending, m, d, h, min, s, months, days, hours,
    minutes, seconds, laid⟩ := exists_layout accepted years split
  have ranges := (isTimestamp_layout years months days hours minutes seconds laid).mp accepted
  obtain ⟨fraction, places, nanoseconds, zone, rfl, rest, universal⟩ :=
    exists_of_isShapedEnd ranges.2.2.2.2.2
  have writes := Writes.fields years months days hours minutes seconds rest
  rw [← layout_append] at laid
  generalize layout year month day hour minute second fraction = characters at writes laid
  obtain ⟨base, rfl⟩ : ∃ base : String, base.toList = characters :=
    ⟨.ofList characters, String.toList_ofList⟩
  obtain ⟨ending, rfl⟩ : ∃ ending : String, ending.toList = zone :=
    ⟨.ofList zone, String.toList_ofList⟩
  have joined : text = base ++ ending :=
    String.toList_injective (laid.trans String.toList_append.symm)
  subst joined
  exact ⟨base, ending, places, _, rfl, universal, writes,
    (writes.isTimestamp_iff universal).mp accepted⟩

theorem Writes.read?_universal {base zone : String} {places : Nat} {time : CivilTime}
    (writes : Writes base.toList places time) (valid : time.isValid = true)
    (universal : Universal zone.toList) : read? (base ++ zone) = some time.toInstant := by
  obtain empty | zulu := universal
  · rw [String.toList_eq_nil_iff.mp empty, String.append_empty, writes.read?_eq valid]
  · rw [String.toList_injective (zulu.trans (by rfl : ['Z'] = "Z".toList)),
      writes.read?_zulu valid]

/-- However an instant is spelled, it is read as that instant, and comparisons depend on
nothing else. -/
theorem spellings_of_instants :
    (∀ {base : String} {places : Nat} {time : CivilTime}, Writes base.toList places time →
      time.isValid = true →
        read? base = some time.toInstant ∧ read? (base ++ "Z") = some time.toInstant ∧
        read? (base ++ "+00:00") = some time.toInstant ∧
        ∀ {hours minutes : String} {h min : Nat}, Field 2 hours.toList h →
          Field 2 minutes.toList min → h ≤ 23 → min ≤ 59 →
            read? (base ++ "+" ++ hours ++ ":" ++ minutes) =
              some (time.toInstant.addSeconds (-(3600 * h + 60 * min : Nat))) ∧
            read? (base ++ "-" ++ hours ++ ":" ++ minutes) =
              some (time.toInstant.addSeconds (3600 * h + 60 * min : Nat))) ∧
    (∀ {text : String}, isTimestamp text = true → FourDigitYear text →
      ∃ base zone places time, text = base ++ zone ∧ Universal zone.toList ∧
        Writes base.toList places time ∧
        (time.date.isValid = true → read? text = some time.toInstant)) ∧
    ∀ {input context path operand} {left right : String} {leftInstant rightInstant : Instant},
      Rule.Finds input context path operand (.string left) (.string right) →
      read? left = some leftInstant → read? right = some rightInstant →
      ∀ relation : Rule.Relation,
        Rule.Kind.timestamp.verdict relation input context path operand =
          .ok (relation.holds (leftInstant.compare rightInstant)) := by
  refine ⟨?_, ?_, ?_⟩
  · intro base places time writes valid
    have zeros : Field 2 "00".toList 0 :=
      field_of_digits (by rfl : _ = some [0, 0]) (by decide) rfl
    have plain : Signs '+' false := .inl ⟨rfl, rfl⟩
    have minus : Signs '-' true := .inr ⟨.inl rfl, rfl⟩
    refine ⟨writes.read?_eq valid, writes.read?_zulu valid, ?_, ?_⟩
    · have read := writes.read?_signed valid (by rfl : "+".toList = ['+']) plain zeros zeros
        (Nat.zero_le _) (Nat.zero_le _)
      rw [String.append_assoc, String.append_assoc, String.append_assoc] at read
      exact read.trans (congrArg some (Instant.addSeconds_zero _))
    · intro hours minutes h min hourField minuteField hourLast minuteLast
      constructor
      · exact writes.read?_signed valid (by rfl : "+".toList = ['+']) plain hourField minuteField
          hourLast minuteLast
      · have read := writes.read?_signed valid (by rfl : "-".toList = ['-']) minus hourField
          minuteField hourLast minuteLast
        rwa [offsetSeconds, if_pos rfl, Int.neg_neg] at read
  · intro text accepted fourDigits
    obtain ⟨base, zone, places, time, rfl, universal, writes, inShape⟩ :=
      exists_writes accepted fourDigits
    exact ⟨base, zone, places, time, rfl, universal, writes, fun real =>
      writes.read?_universal (inShape.isValid real) universal⟩
  · intro input context path operand left right leftInstant rightInstant finds leftRead
      rightRead relation
    exact finds.timestamp_verdict_eq leftRead rightRead relation

theorem writes_leap_second :
    Writes "2016-12-31T23:59:60.5".toList 1 ⟨⟨2016, 12, 31⟩, 23, 59, 60, 500000000⟩ := by
  have characters : "2016-12-31T23:59:60.5".toList = layout ['2', '0', '1', '6'] ['1', '2']
      ['3', '1'] ['2', '3'] ['5', '9'] ['6', '0'] ['.', '5'] := by rfl
  rw [characters]
  exact .fields (field_of_digits (by rfl : _ = some [2, 0, 1, 6]) (by decide) rfl)
    (field_of_digits (by rfl : _ = some [1, 2]) (by decide) rfl)
    (field_of_digits (by rfl : _ = some [3, 1]) (by decide) rfl)
    (field_of_digits (by rfl : _ = some [2, 3]) (by decide) rfl)
    (field_of_digits (by rfl : _ = some [5, 9]) (by decide) rfl)
    (field_of_digits (by rfl : _ = some [6, 0]) (by decide) rfl)
    (.digits (.digit (by rfl : Text.digit? '5' = some 5)))

/-- Half a second into a leap second comes before the year that follows it. -/
theorem spellings_of_a_leap_second :
    (Writes "2016-12-31T23:59:60.5".toList 1 ⟨⟨2016, 12, 31⟩, 23, 59, 60, 500000000⟩ ∧
      read? "2016-12-31T23:59:60.5" = some ⟨1483228799, 1500000000⟩ ∧
      read? ("2016-12-31T23:59:60.5" ++ "Z") = some ⟨1483228799, 1500000000⟩ ∧
      read? ("2016-12-31T23:59:60.5" ++ "-" ++ "14" ++ ":" ++ "30") =
        some ⟨1483280999, 1500000000⟩) ∧
    (isTimestamp "2017-01-01T00:00:00Z" = true ∧ FourDigitYear "2017-01-01T00:00:00Z" ∧
      ∃ base zone places time, "2017-01-01T00:00:00Z" = base ++ zone ∧
        Universal zone.toList ∧ Writes base.toList places time ∧
        (time.date.isValid = true → read? "2017-01-01T00:00:00Z" = some time.toInstant)) ∧
    Rule.Kind.timestamp.verdict .lessThan
      (Rule.delivery "2016-12-31T23:59:60.5" "2017-01-01T00:00:00Z") .null "$.sent"
      (.path "$.due") = .ok true := by
  obtain ⟨spelled, accepted, compared⟩ := spellings_of_instants
  obtain ⟨plain, zulu, -, shifted⟩ := spelled writes_leap_second (by decide)
  have fourteen : Field 2 "14".toList 14 :=
    field_of_digits (by rfl : _ = some [1, 4]) (by decide) rfl
  have thirty : Field 2 "30".toList 30 :=
    field_of_digits (by rfl : _ = some [3, 0]) (by decide) rfl
  have shape : isTimestamp "2017-01-01T00:00:00Z" = true := by decide +kernel
  have year : FourDigitYear "2017-01-01T00:00:00Z" :=
    ⟨['2', '0', '1', '7'], 2017, "01-01T00:00:00Z".toList,
      field_of_digits (by rfl : _ = some [2, 0, 1, 7]) (by decide) rfl, by decide +kernel⟩
  have after : read? "2017-01-01T00:00:00Z" = some ⟨1483228800, 0⟩ := by decide +kernel
  exact ⟨⟨writes_leap_second, plain, zulu, (shifted fourteen thirty (by decide) (by decide)).2⟩,
    ⟨shape, year, accepted shape year⟩,
    compared (Rule.delivery_finds _ _) plain after .lessThan⟩

end Timestamp

end StatesLanguage
