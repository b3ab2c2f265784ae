import Mathlib.Data.List.Basic
import Mathlib.Tactic.IntervalCases
import Mathlib.Tactic.Ring
import StatesLanguage.Proofs.Numeral
import StatesLanguage.Timestamp

/-!
# Fields of timestamps

A timestamp is made of numerals of fixed lengths, the characters between them, and perhaps a
fraction.  The readers of these parts accept exactly what is written so, whatever comes
after it.
-/

namespace StatesLanguage

namespace Text

theorem ofDigits_append_digits (first second : List Nat) :
    ofDigits (first ++ second) = ofDigits first * 10 ^ second.length + ofDigits second := by
  induction second using List.reverseRecOn with
  | nil => simp [ofDigits]
  | append_singleton second digit induction =>
      rw [← List.append_assoc, ofDigits_append, induction, ofDigits_append, List.length_append,
        List.length_singleton, Nat.pow_succ]
      ring

theorem ofDigits_lt {digits : List Nat} (decimal : ∀ digit ∈ digits, digit < 10) :
    ofDigits digits < 10 ^ digits.length := by
  induction digits using List.reverseRecOn with
  | nil => simp [ofDigits]
  | append_singleton digits digit induction =>
      have before := induction fun other member =>
        decimal other (List.mem_append_left _ member)
      have last := decimal digit (by simp)
      rw [ofDigits_append, List.length_append, List.length_singleton, Nat.pow_succ]
      omega

/-- The digits of a numeral are taken from the start of a text. -/
theorem Numeral.exists_takeDigits {text : List Char} {number : Nat}
    (numeral : Numeral text number) (rest : List Char) :
    ∃ digits, takeDigits (text ++ rest) = (digits ++ (takeDigits rest).1, (takeDigits rest).2) ∧
      digits.length = text.length ∧ ofDigits digits = number ∧ ∀ digit ∈ digits, digit < 10 := by
  induction numeral generalizing rest with
  | @digit character value counts =>
      refine ⟨[value], ?_, rfl, by simp [ofDigits], ?_⟩
      · rw [List.singleton_append, takeDigits, counts]
        rfl
      · simpa using (digit?_eq_some_iff.mp counts).1
  | @more text number character value before counts induction =>
      obtain ⟨digits, taken, long, counted, decimal⟩ := induction (character :: rest)
      refine ⟨digits ++ [value], ?_, ?_, ?_, ?_⟩
      · rw [List.append_assoc, List.singleton_append, taken, takeDigits, counts]
        simp
      · rw [List.length_append, List.length_append, long]
        rfl
      · rw [ofDigits_append, counted]
      · intro digit member
        rcases List.mem_append.mp member with earlier | last
        · exact decimal digit earlier
        · rw [List.mem_singleton.mp last]
          exact (digit?_eq_some_iff.mp counts).1

theorem Numeral.lt {text : List Char} {number : Nat} (numeral : Numeral text number) :
    number < 10 ^ text.length := by
  obtain ⟨digits, -, long, counted, decimal⟩ := numeral.exists_takeDigits []
  rw [← counted, ← long]
  exact ofDigits_lt decimal

/-- What is taken from the start of a text are the digits of what stands there. -/
theorem exists_taken (text : List Char) :
    ∃ before, text = before ++ (takeDigits text).2 ∧
      before.mapM digit? = some (takeDigits text).1 ∧
      before.length = (takeDigits text).1.length := by
  induction text with
  | nil => exact ⟨[], rfl, rfl, rfl⟩
  | cons character text induction =>
      rw [takeDigits]
      cases counts : digit? character with
      | none => exact ⟨[], rfl, rfl, rfl⟩
      | some digit =>
          obtain ⟨before, split, each, long⟩ := induction
          refine ⟨character :: before, ?_, ?_, ?_⟩
          · exact congrArg (character :: ·) split
          · rw [List.mapM_cons, counts, each]
            rfl
          · exact congrArg (· + 1) long

theorem isBlank_of_digit? {character : Char} {value : Nat}
    (counts : digit? character = some value) : isBlank character = false := by
  obtain ⟨below, rfl⟩ := digit?_eq_some_iff.mp counts
  interval_cases value <;> rfl

theorem Numeral.exists_cons {text : List Char} {number : Nat} (numeral : Numeral text number) :
    ∃ character others value, text = character :: others ∧ digit? character = some value := by
  obtain ⟨character, others, rfl⟩ := List.exists_cons_of_ne_nil numeral.ne_nil
  obtain ⟨value, counts⟩ :=
    Option.isSome_iff_exists.mp (numeral.isSome_of_mem List.mem_cons_self)
  exact ⟨character, others, value, rfl, counts⟩

theorem mapM_digit?_take {text : List Char} {digits : List Nat}
    (each : text.mapM digit? = some digits) (count : Nat) :
    (text.take count).mapM digit? = some (digits.take count) := by
  induction text generalizing digits count with
  | nil =>
      cases each
      simp
  | cons character text induction =>
      rw [List.mapM_cons] at each
      obtain ⟨digit, counts, each⟩ := Option.bind_eq_some_iff.mp each
      obtain ⟨others, others_each, each⟩ := Option.bind_eq_some_iff.mp each
      cases each
      cases count with
      | zero => rfl
      | succ count =>
          rw [List.take_succ_cons, List.take_succ_cons, List.mapM_cons, counts,
            induction others_each count]
          rfl

end Text

namespace Timestamp

open Text (Numeral)

/-- A numeral of some digits. -/
structure Field (width : Nat) (text : List Char) (number : Nat) : Prop where
  numeral : Numeral text number
  length : text.length = width

theorem Field.lt {width : Nat} {text : List Char} {number : Nat}
    (field : Field width text number) : number < 10 ^ width := by
  rw [← field.length]
  exact field.numeral.lt

theorem field_of_digits {width : Nat} {text : List Char} {digits : List Nat}
    (each : text.mapM Text.digit? = some digits) (present : text ≠ [])
    (length : text.length = width) : Field width text (Text.ofDigits digits) :=
  ⟨Text.numeral_iff.mpr ⟨present, digits, each, rfl⟩, length⟩

theorem Field.readNumber_append {least most : Nat} {text : List Char} {number : Nat}
    (field : Field most text number) (enough : least ≤ most) (rest : List Char) :
    readNumber least most (text ++ rest) = some (number, rest) := by
  obtain ⟨numeral, width⟩ := field
  obtain ⟨digits, taken, long, counted, -⟩ := numeral.exists_takeDigits rest
  have filled : digits.length = most := long.trans width
  rw [readNumber, taken, List.take_left' filled, if_neg (by omega), counted,
    List.drop_left' long.symm]

theorem readNumber_eq_some {least most number : Nat} {text rest : List Char}
    (present : 0 < least) (read : readNumber least most text = some (number, rest)) :
    ∃ field, text = field ++ rest ∧ Numeral field number ∧ least ≤ field.length ∧
      field.length ≤ most := by
  obtain ⟨before, split, each, long⟩ := Text.exists_taken text
  rw [readNumber] at read
  generalize (Text.takeDigits text).1 = digits at *
  generalize (Text.takeDigits text).2 = after at *
  have short : (before.take most).length = (digits.take most).length := by
    rw [List.length_take, List.length_take, long]
  split at read
  · cases read
  · rename_i enough
    cases read
    refine ⟨before.take most, ?_, ?_, ?_, ?_⟩
    · have initial : before.take most <+: text :=
        (List.take_prefix most before).trans ⟨after, split.symm⟩
      rw [← short, List.prefix_iff_eq_append.mp initial]
    · apply Text.numeral_iff.mpr
      refine ⟨?_, digits.take most, Text.mapM_digit?_take each most, rfl⟩
      intro empty
      rw [empty, List.length_nil] at short
      omega
    · omega
    · rw [List.length_take]
      omega

theorem readNumber_exactly {width number : Nat} {text rest : List Char} (present : 0 < width)
    (read : readNumber width width text = some (number, rest)) :
    ∃ field, text = field ++ rest ∧ Field width field number := by
  obtain ⟨field, split, numeral, least, most⟩ := readNumber_eq_some present read
  exact ⟨field, split, numeral, by omega⟩

theorem expect_cons (character : Char) (rest : List Char) :
    expect character (character :: rest) = some rest := by
  rw [expect, if_pos rfl]

theorem expect_eq_some {character : Char} {text rest : List Char}
    (read : expect character text = some rest) : text = character :: rest := by
  cases text with
  | nil => cases read
  | cons first text =>
      rw [expect] at read
      split at read
      · rename_i same
        cases read
        rw [same]
      · cases read

/-- A field between two bounds. -/
theorem Field.readField_append {least most number : Nat} {text : List Char}
    (field : Field 2 text number) (rest : List Char) :
    readField least most (text ++ rest) =
      if least ≤ number ∧ number ≤ most then some rest else none := by
  rw [readField, field.readNumber_append Nat.le.refl]
  rfl

theorem readField_eq_some {least most : Nat} {text rest : List Char}
    (read : readField least most text = some rest) :
    ∃ field number, text = field ++ rest ∧ Field 2 field number := by
  obtain ⟨⟨number, after⟩, first, last⟩ := Option.bind_eq_some_iff.mp read
  obtain ⟨field, split, written⟩ := readNumber_exactly Nat.two_pos first
  change (if least ≤ number ∧ number ≤ most then some after else none) = some rest at last
  split at last
  · cases last
    exact ⟨field, number, split, written⟩
  · cases last

/-- A year of four digits, whatever follows that is no digit. -/
theorem Field.readShapedYear_append {text : List Char} {number : Nat}
    (field : Field 4 text number) {rest : List Char}
    (stops : ∀ character ∈ rest.head?, Text.digit? character = none) :
    readShapedYear (text ++ rest) = some rest := by
  obtain ⟨numeral, width⟩ := field
  obtain ⟨digits, taken, long, -, -⟩ := numeral.exists_takeDigits rest
  have ended : (Text.takeDigits rest).1 = [] := by
    cases rest with
    | nil => rfl
    | cons character rest => rw [Text.takeDigits, stops character rfl]
  rw [ended, List.append_nil] at taken
  unfold readShapedYear
  split
  · rename_i signed
    obtain ⟨character, others, value, rfl, counts⟩ := numeral.exists_cons
    obtain ⟨rfl, -⟩ := List.cons.inj signed
    cases counts
  · simp only [taken]
    obtain ⟨first, second, third, fourth, rfl⟩ := List.length_eq_four.mp (long.trans width)
    exact congrArg some (List.drop_left' width)

/-- The fraction of a second in a text, to some places: the whole nanoseconds in it. -/
inductive WritesFraction : List Char → Nat → Nat → Prop where
  | absent : WritesFraction [] 0 0
  | digits {text : List Char} {number : Nat} (numeral : Numeral text number) :
      WritesFraction ('.' :: text) text.length (number * 10 ^ 9 / 10 ^ text.length)

theorem WritesFraction.lt {text : List Char} {places nanoseconds : Nat}
    (writes : WritesFraction text places nanoseconds) :
    nanoseconds < Instant.nanosecondsPerSecond := by
  cases writes with
  | absent => decide
  | @digits text number numeral =>
      apply Nat.div_lt_of_lt_mul
      exact Nat.mul_lt_mul_of_pos_right numeral.lt (by decide)

theorem nanoseconds_of_few {places : Nat} (few : places ≤ 9) (number : Nat) :
    number * 10 ^ 9 / 10 ^ places = number * 10 ^ (9 - places) := by
  have scale : 10 ^ 9 = 10 ^ (9 - places) * 10 ^ places := by
    rw [← Nat.pow_add, Nat.sub_add_cancel few]
  rw [scale, ← Nat.mul_assoc, Nat.mul_div_cancel _ (Nat.pow_pos (by decide))]

/-- Only the first nine places count. -/
theorem nanosecondsOf_eq {digits : List Nat} (decimal : ∀ digit ∈ digits, digit < 10) :
    nanosecondsOf digits = Text.ofDigits digits * 10 ^ 9 / 10 ^ digits.length := by
  rw [nanosecondsOf, tenTo, Nat.pow_eq]
  by_cases short : digits.length ≤ 9
  · rw [List.take_of_length_le short, nanoseconds_of_few short]
  · have parts := Text.ofDigits_append_digits (digits.take 9) (digits.drop 9)
    have ignored := Text.ofDigits_lt fun digit member =>
      decimal digit (List.mem_of_mem_drop (i := 9) member)
    have kept : (digits.take 9).length = 9 := by
      rw [List.length_take]
      omega
    rw [List.take_append_drop] at parts
    have scale : 10 ^ digits.length = 10 ^ (digits.drop 9).length * 10 ^ 9 := by
      rw [← Nat.pow_add, List.length_drop]
      congr 1
      omega
    rw [kept, parts, scale, Nat.mul_div_mul_right _ _ (by decide),
      Nat.mul_comm _ (10 ^ (digits.drop 9).length), Nat.mul_add_div (Nat.pow_pos (by decide)),
      Nat.div_eq_of_lt ignored, Nat.add_zero, Nat.sub_self, Nat.pow_zero, Nat.mul_one]

/-- Neither a point nor a digit, which a reader of a fraction would take. -/
def EndsFraction (rest : List Char) : Prop :=
  ∀ character ∈ rest.head?, character ≠ '.' ∧ Text.digit? character = none

theorem WritesFraction.readFraction_append {text rest : List Char} {places nanoseconds : Nat}
    (writes : WritesFraction text places nanoseconds) (ends : EndsFraction rest) :
    readFraction (text ++ rest) = some (nanoseconds, rest) := by
  cases writes with
  | absent =>
      rw [List.nil_append]
      cases rest with
      | nil => rfl
      | cons character rest =>
          obtain ⟨other, -⟩ := ends character rfl
          unfold readFraction
          split
          · rename_i same
            cases same
            exact absurd rfl other
          · rfl
  | @digits text number numeral =>
      obtain ⟨digits, taken, long, counted, decimal⟩ := numeral.exists_takeDigits rest
      have stops : Text.takeDigits rest = ([], rest) := by
        cases rest with
        | nil => rfl
        | cons character rest => rw [Text.takeDigits, (ends character rfl).2]
      rw [stops, List.append_nil] at taken
      rw [List.cons_append, readFraction, taken]
      have present : digits ≠ [] := by
        rw [ne_eq, ← List.length_eq_zero_iff, long, List.length_eq_zero_iff]
        exact numeral.ne_nil
      obtain ⟨first, others, rfl⟩ := List.exists_cons_of_ne_nil present
      change some (nanosecondsOf (first :: others), rest) = _
      rw [nanosecondsOf_eq decimal, counted, long]

theorem endsFraction_nil : EndsFraction [] := by
  intro character first
  cases first

theorem endsFraction_cons {character : Char} {rest : List Char} (other : character ≠ '.')
    (noDigit : Text.digit? character = none) : EndsFraction (character :: rest) := by
  intro first same
  cases same
  exact ⟨other, noDigit⟩

theorem WritesFraction.readFraction_eq {text : List Char} {places nanoseconds : Nat}
    (writes : WritesFraction text places nanoseconds) :
    readFraction text = some (nanoseconds, []) := by
  have whole := writes.readFraction_append endsFraction_nil
  rwa [List.append_nil] at whole

theorem readFraction_eq_some {text rest : List Char} {nanoseconds : Nat}
    (read : readFraction text = some (nanoseconds, rest)) :
    ∃ fraction places, text = fraction ++ rest ∧ WritesFraction fraction places nanoseconds := by
  unfold readFraction at read
  split at read
  · rename_i digits_text
    obtain ⟨before, split, each, long⟩ := Text.exists_taken digits_text
    split at read
    · cases read
    · rename_i digits after present taken
      cases read
      rw [taken] at split each long
      refine ⟨'.' :: before, before.length, by rw [List.cons_append, ← split], ?_⟩
      have numeral : Numeral before (Text.ofDigits digits) := by
        apply Text.numeral_iff.mpr
        refine ⟨?_, digits, each, rfl⟩
        intro empty
        rw [empty] at each
        cases each
        exact present rfl
      obtain ⟨others, again, -, -, decimal⟩ := numeral.exists_takeDigits []
      have whole : Text.takeDigits (before ++ []) = (digits, []) :=
        Text.takeDigits_append each fun character first => nomatch first
      rw [whole] at again
      have same : digits = others := by simpa [Text.takeDigits] using congrArg Prod.fst again
      subst same
      rw [nanosecondsOf_eq decimal, ← long]
      exact .digits numeral
  · cases read
    exact ⟨[], 0, rfl, .absent⟩

end Timestamp

end StatesLanguage
