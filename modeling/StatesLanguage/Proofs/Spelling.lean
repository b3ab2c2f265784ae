import StatesLanguage.Proofs.CivilTime
import StatesLanguage.Proofs.Comparison
import StatesLanguage.Proofs.TimeFields

/-!
# Spellings of instants

A date and a time of day stand in a text as fields of fixed lengths, perhaps with a fraction.
Without an offset, with `Z` and with an offset of zero they name one instant, with another
offset the instant that much earlier or later; comparisons see the instants alone.
-/

namespace StatesLanguage

theorem Instant.addSeconds_zero (instant : Instant) : instant.addSeconds 0 = instant := by
  rw [addSeconds, Int.add_zero]

namespace Timestamp

/-- Fields of a date and a time of day, what stands between them, and what follows. -/
def layout (year month day hour minute second rest : List Char) : List Char :=
  year ++ '-' :: (month ++ '-' :: (day ++ 'T' ::
    (hour ++ ':' :: (minute ++ ':' :: (second ++ rest)))))

theorem layout_append (year month day hour minute second rest more : List Char) :
    layout year month day hour minute second rest ++ more =
      layout year month day hour minute second (rest ++ more) := by
  simp only [layout, List.append_assoc, List.cons_append]

/-- A date and a time of day in a text, the year in four digits and the second to some
places. -/
inductive Writes : List Char → Nat → CivilTime → Prop where
  | fields {year month day hour minute second fraction : List Char}
      {y m d h min s places nanoseconds : Nat} (years : Field 4 year y)
      (months : Field 2 month m) (days : Field 2 day d) (hours : Field 2 hour h)
      (minutes : Field 2 minute min) (seconds : Field 2 second s)
      (rest : WritesFraction fraction places nanoseconds) :
      Writes (layout year month day hour minute second fraction) places
        ⟨⟨y, m, d⟩, h, min, s, nanoseconds⟩

theorem bind_eq_of_read {α β : Type} {read : Option α} {value : α} {next : α → Option β}
    {result : Option β} (reads : read = some value) (goesOn : next value = result) :
    (read >>= next) = result := by
  rw [reads]
  exact goesOn

theorem readSeparator_cons (rest : List Char) : readSeparator ('T' :: rest) = some rest :=
  rfl

section

variable {year month day hour minute second rest : List Char} {y m d h min s : Nat}

theorem readStrict_layout (years : Field 4 year y) (months : Field 2 month m)
    (days : Field 2 day d) (hours : Field 2 hour h) (minutes : Field 2 minute min)
    (seconds : Field 2 second s) :
    readStrict (layout year month day hour minute second rest) = (do
      let (nanoseconds, zone) ← readFraction rest
      let offset ← readOffset zone
      let time ← valid? ⟨⟨y, m, d⟩, h, min, s, nanoseconds⟩
      pure (time.toInstant.addSeconds (-offset))) := by
  unfold readStrict layout
  apply bind_eq_of_read (years.readNumber_append Nat.le.refl _)
  apply bind_eq_of_read (expect_cons '-' _)
  apply bind_eq_of_read (months.readNumber_append Nat.le.refl _)
  apply bind_eq_of_read (expect_cons '-' _)
  apply bind_eq_of_read (days.readNumber_append Nat.le.refl _)
  apply bind_eq_of_read (readSeparator_cons _)
  apply bind_eq_of_read (hours.readNumber_append Nat.le.refl _)
  apply bind_eq_of_read (expect_cons ':' _)
  apply bind_eq_of_read (minutes.readNumber_append Nat.le.refl _)
  apply bind_eq_of_read (expect_cons ':' _)
  apply bind_eq_of_read (seconds.readNumber_append Nat.le.refl _)
  rfl

/-- No blank stands before a numeral. -/
theorem Field.trimStart_append {width number : Nat} {text : List Char}
    (field : Field width text number) (rest : List Char) :
    Text.trimStart (text ++ rest) = text ++ rest := by
  obtain ⟨character, others, value, rfl, counts⟩ := field.numeral.exists_cons
  apply List.dropWhile_cons_of_neg
  rw [Text.isBlank_of_digit? counts]
  exact Bool.false_ne_true

theorem Field.readLaxNumber_append {number : Nat} {text : List Char}
    (field : Field 2 text number) (rest : List Char) :
    readLaxNumber (text ++ rest) = some (number, rest) := by
  rw [readLaxNumber, field.trimStart_append, field.readNumber_append (by decide)]

theorem Field.readLaxYear_append {number : Nat} {text : List Char}
    (field : Field 4 text number) (rest : List Char) :
    readLaxYear (text ++ rest) = some ((number : Int), rest) := by
  obtain ⟨character, others, value, rfl, counts⟩ := field.numeral.exists_cons
  unfold readLaxYear
  rw [field.trimStart_append]
  split
  · rename_i signed
    obtain ⟨rfl, -⟩ := List.cons.inj signed
    cases counts
  · rename_i signed
    obtain ⟨rfl, -⟩ := List.cons.inj signed
    cases counts
  · rw [field.readNumber_append (by decide)]
    rfl

theorem readLax_layout (years : Field 4 year y) (months : Field 2 month m)
    (days : Field 2 day d) (hours : Field 2 hour h) (minutes : Field 2 minute min)
    (seconds : Field 2 second s) :
    readLax (layout year month day hour minute second rest) = (do
      let (nanoseconds, after) ← readFraction rest
      if after.isEmpty then
        let time ← valid? ⟨⟨y, m, d⟩, h, min, s, nanoseconds⟩
        pure time.toInstant
      else none) := by
  unfold readLax layout
  apply bind_eq_of_read (years.readLaxYear_append _)
  apply bind_eq_of_read (expect_cons '-' _)
  apply bind_eq_of_read (months.readLaxNumber_append _)
  apply bind_eq_of_read (expect_cons '-' _)
  apply bind_eq_of_read (days.readLaxNumber_append _)
  apply bind_eq_of_read (expect_cons 'T' _)
  apply bind_eq_of_read (hours.readLaxNumber_append _)
  apply bind_eq_of_read (expect_cons ':' _)
  apply bind_eq_of_read (minutes.readLaxNumber_append _)
  apply bind_eq_of_read (expect_cons ':' _)
  apply bind_eq_of_read (seconds.readLaxNumber_append _)
  rfl

end

section

variable {text zone : List Char} {places : Nat} {time : CivilTime}

theorem Writes.onClock (writes : Writes text places time) (valid : time.isValid = true) :
    time.OnClock := by
  cases writes with
  | fields _ _ _ _ _ _ rest => exact ⟨valid, rest.lt⟩

theorem Writes.valid?_eq (writes : Writes text places time) (valid : time.isValid = true) :
    valid? time = some time := by
  cases writes with
  | @fields _ _ _ _ _ _ _ y _ _ _ _ _ _ _ years _ _ _ _ _ _ =>
      have inRange : yearInRange (y : Int) = true := by
        have below := years.lt
        simp only [yearInRange, Bool.and_eq_true, decide_eq_true_eq]
        omega
      rw [valid?, valid]
      simp only [inRange]
      rfl

theorem Writes.readStrict_append (writes : Writes text places time)
    (valid : time.isValid = true) (ends : EndsFraction zone) {offset : Int}
    (zoned : readOffset zone = some offset) :
    readStrict (text ++ zone) = some (time.toInstant.addSeconds (-offset)) := by
  have exists_time := writes.valid?_eq valid
  cases writes with
  | fields years months days hours minutes seconds rest =>
      rw [layout_append, readStrict_layout years months days hours minutes seconds]
      apply bind_eq_of_read (rest.readFraction_append ends)
      apply bind_eq_of_read zoned
      apply bind_eq_of_read exists_time
      rfl

theorem Writes.readStrict_eq_none (writes : Writes text places time) :
    readStrict text = none := by
  cases writes with
  | fields years months days hours minutes seconds rest =>
      rw [readStrict_layout years months days hours minutes seconds]
      apply bind_eq_of_read rest.readFraction_eq
      rfl

theorem Writes.readLax_eq (writes : Writes text places time) (valid : time.isValid = true) :
    readLax text = some time.toInstant := by
  have exists_time := writes.valid?_eq valid
  cases writes with
  | fields years months days hours minutes seconds rest =>
      rw [readLax_layout years months days hours minutes seconds]
      apply bind_eq_of_read rest.readFraction_eq
      apply bind_eq_of_read exists_time
      rfl

theorem Writes.read?_eq {base : String} (writes : Writes base.toList places time)
    (valid : time.isValid = true) : read? base = some time.toInstant := by
  rw [read?, writes.readStrict_eq_none]
  exact writes.readLax_eq valid

theorem Writes.read?_append {base zone : String} (writes : Writes base.toList places time)
    (valid : time.isValid = true) (ends : EndsFraction zone.toList) {offset : Int}
    (zoned : readOffset zone.toList = some offset) :
    read? (base ++ zone) = some (time.toInstant.addSeconds (-offset)) := by
  rw [read?, String.toList_append, writes.readStrict_append valid ends zoned]

theorem Writes.read?_zulu {base : String} (writes : Writes base.toList places time)
    (valid : time.isValid = true) : read? (base ++ "Z") = some time.toInstant := by
  have ends : EndsFraction "Z".toList := endsFraction_cons (by decide) rfl
  rw [writes.read?_append valid ends rfl, Int.neg_zero, Instant.addSeconds_zero]

end

/-- The signs of offsets, the minus sign of Unicode among them. -/
def Signs (sign : Char) (negative : Bool) : Prop :=
  (sign = '+' ∧ negative = false) ∨ ((sign = '-' ∨ sign = '\u2212') ∧ negative = true)

theorem Signs.bind_eq {sign : Char} {negative : Bool} (signs : Signs sign negative)
    {β : Type} (next : Bool → Option β) :
    (if sign = '+' then some false >>= next
      else if sign = '-' ∨ sign = '\u2212' then some true >>= next
      else none >>= next) = next negative := by
  obtain ⟨rfl, rfl⟩ | ⟨rfl | rfl, rfl⟩ := signs
  · rfl
  · rfl
  · rfl

theorem Signs.endsFraction {sign : Char} {negative : Bool} (signs : Signs sign negative)
    (rest : List Char) : EndsFraction (sign :: rest) := by
  obtain ⟨rfl, -⟩ | ⟨rfl | rfl, -⟩ := signs
  · exact endsFraction_cons (by decide) rfl
  · exact endsFraction_cons (by decide) rfl
  · exact endsFraction_cons (by decide) rfl

/-- The seconds of an offset of some hours and minutes. -/
def offsetSeconds (negative : Bool) (hours minutes : Nat) : Int :=
  if negative then -(3600 * hours + 60 * minutes : Nat) else (3600 * hours + 60 * minutes : Nat)

theorem readOffset_signed {sign : Char} {negative : Bool} {hours minutes : List Char}
    {h min : Nat} (signs : Signs sign negative) (hourField : Field 2 hours h)
    (minuteField : Field 2 minutes min) (hourLast : h ≤ 23) (minuteLast : min ≤ 59) :
    readOffset (sign :: (hours ++ ':' :: minutes)) =
      some (offsetSeconds negative h min) := by
  have whole := minuteField.readNumber_append Nat.le.refl []
  rw [List.append_nil] at whole
  have present : hours ++ ':' :: minutes ≠ [] := by simp
  unfold readOffset
  split
  · rename_i zulu
    exact absurd (List.cons.inj zulu).2 present
  · rename_i zulu
    exact absurd (List.cons.inj zulu).2 present
  · rename_i split
    cases split
    apply (signs.bind_eq _).trans
    apply bind_eq_of_read (hourField.readNumber_append Nat.le.refl _)
    apply bind_eq_of_read (expect_cons ':' _)
    apply bind_eq_of_read whole
    exact if_pos ⟨hourLast, minuteLast, rfl⟩
  · rename_i empty
    cases empty

/-- An offset behind a date and a time of day. -/
theorem Writes.read?_signed {base sign hours minutes : String} {places h min : Nat}
    {time : CivilTime} {character : Char} {negative : Bool}
    (writes : Writes base.toList places time) (valid : time.isValid = true)
    (single : sign.toList = [character]) (signs : Signs character negative)
    (hourField : Field 2 hours.toList h) (minuteField : Field 2 minutes.toList min)
    (hourLast : h ≤ 23) (minuteLast : min ≤ 59) :
    read? (base ++ sign ++ hours ++ ":" ++ minutes) =
      some (time.toInstant.addSeconds (-offsetSeconds negative h min)) := by
  have joined : (sign ++ hours ++ ":" ++ minutes).toList =
      character :: (hours.toList ++ ':' :: minutes.toList) := by
    simp [String.toList_append, single]
  have ends : EndsFraction (sign ++ hours ++ ":" ++ minutes).toList := by
    rw [joined]
    exact signs.endsFraction _
  have zoned := readOffset_signed signs hourField minuteField hourLast minuteLast
  rw [← joined] at zoned
  have read := writes.read?_append valid ends zoned
  rwa [← String.append_assoc, ← String.append_assoc, ← String.append_assoc] at read

end Timestamp

end StatesLanguage
