import Mathlib.Data.List.Induction
import Mathlib.Tactic.IntervalCases
import StatesLanguage.Path.Notation

/-!
# Numerals

A numeral is a text of decimal digits, and each digit after the first one counts ten
times what stands before it.  The readers of numbers accept numerals, and the digits that
are written for a number are a numeral of it.
-/

namespace StatesLanguage

namespace Text

theorem digit?_eq_some_iff {character : Char} {value : Nat} :
    digit? character = some value ↔ value < 10 ∧ character = Nat.digitChar value := by
  constructor
  · intro counts
    rw [digit?] at counts
    split at counts
    · rename_i within
      cases counts
      have least : 48 ≤ character.toNat := within.1
      have greatest : character.toNat ≤ 57 := within.2
      refine ⟨by omega, ?_⟩
      have same : character = Char.ofNat character.toNat := (Char.ofNat_toNat character).symm
      generalize character.toNat = code at *
      subst same
      interval_cases code <;> rfl
    · cases counts
  · rintro ⟨below, rfl⟩
    interval_cases value <;> rfl

/-- Decimal digits and the number that they write. -/
inductive Numeral : List Char → Nat → Prop where
  | digit {character : Char} {value : Nat} (counts : digit? character = some value) :
      Numeral [character] value
  | more {text : List Char} {number : Nat} {character : Char} {value : Nat}
      (before : Numeral text number) (counts : digit? character = some value) :
      Numeral (text ++ [character]) (10 * number + value)

theorem Numeral.ne_nil {text : List Char} {number : Nat} (numeral : Numeral text number) :
    text ≠ [] := by
  cases numeral with
  | digit counts => exact List.cons_ne_nil _ _
  | more before counts => exact List.append_ne_nil_of_right_ne_nil _ (List.cons_ne_nil _ _)

/-- Numerals hold digits only. -/
theorem Numeral.isSome_of_mem {text : List Char} {number : Nat}
    (numeral : Numeral text number) {character : Char} (member : character ∈ text) :
    (digit? character).isSome := by
  induction numeral with
  | digit counts =>
      rw [List.mem_singleton.mp member, counts]
      rfl
  | more before counts induction =>
      rcases List.mem_append.mp member with earlier | last
      · exact induction earlier
      · rw [List.mem_singleton.mp last, counts]
        rfl

theorem ofDigits_append (digits : List Nat) (digit : Nat) :
    ofDigits (digits ++ [digit]) = 10 * ofDigits digits + digit := by
  rw [ofDigits, List.foldl_append]
  rfl

theorem numeral_iff {text : List Char} {number : Nat} :
    Numeral text number ↔
      text ≠ [] ∧ ∃ digits, text.mapM digit? = some digits ∧ ofDigits digits = number := by
  constructor
  · intro numeral
    refine ⟨numeral.ne_nil, ?_⟩
    induction numeral with
    | @digit character value counts => exact ⟨[value], by simp [counts], by simp [ofDigits]⟩
    | @more text number character value before counts induction =>
        obtain ⟨digits, each, rfl⟩ := induction
        refine ⟨digits ++ [value], ?_, ofDigits_append digits value⟩
        simp [each, counts]
  · rintro ⟨present, digits, each, rfl⟩
    induction text using List.reverseRecOn generalizing digits with
    | nil => exact absurd rfl present
    | append_singleton text character induction =>
        rw [List.mapM_append] at each
        obtain ⟨before, before_each, each⟩ := Option.bind_eq_some_iff.mp each
        obtain ⟨last, last_each, each⟩ := Option.bind_eq_some_iff.mp each
        cases each
        rw [List.mapM_cons] at last_each
        obtain ⟨value, counts, last_each⟩ := Option.bind_eq_some_iff.mp last_each
        cases last_each
        by_cases empty : text = []
        · subst empty
          cases before_each
          simpa [ofDigits] using Numeral.digit counts
        · have longer := Numeral.more (induction empty before before_each) counts
          rw [← ofDigits_append] at longer
          exact longer

theorem takeDigits_append {text : List Char} {digits : List Nat}
    (each : text.mapM digit? = some digits) {rest : List Char}
    (stops : ∀ character ∈ rest.head?, digit? character = none) :
    takeDigits (text ++ rest) = (digits, rest) := by
  induction text generalizing digits with
  | nil =>
      cases each
      cases rest with
      | nil => rfl
      | cons character rest =>
          rw [List.nil_append, takeDigits, stops character rfl]
          rfl
  | cons character text induction =>
      rw [List.mapM_cons] at each
      obtain ⟨digit, counts, each⟩ := Option.bind_eq_some_iff.mp each
      obtain ⟨others, others_each, each⟩ := Option.bind_eq_some_iff.mp each
      cases each
      rw [List.cons_append, takeDigits, counts, induction others_each]

/-- What is written for a number is digits without a leading zero. -/
theorem exists_digits (number : Nat) :
    ∃ digits, (Number.digitText number).mapM digit? = some digits ∧
      ofDigits digits = number ∧ digits ≠ [] ∧
      ∀ second others, digits ≠ 0 :: second :: others := by
  induction number using Nat.strongRecOn with
  | ind number induction =>
      rw [Number.digitText]
      by_cases small : number < 10
      · have counts : digit? (Nat.digitChar number) = some number :=
          digit?_eq_some_iff.mpr ⟨small, rfl⟩
        rw [Nat.toDigits_of_lt_base small]
        exact ⟨[number], by simp [counts], by simp [ofDigits], by simp, by simp⟩
      · obtain ⟨digits, each, counted, present, unpadded⟩ := induction (number / 10) (by omega)
        have counts : digit? (Nat.digitChar (number % 10)) = some (number % 10) :=
          digit?_eq_some_iff.mpr ⟨Nat.mod_lt number (by decide), rfl⟩
        rw [Nat.toDigits_of_base_le (by decide) (by omega)]
        rw [Number.digitText] at each
        refine ⟨digits ++ [number % 10], by simp [each, counts], ?_, by simp, ?_⟩
        · rw [ofDigits_append, counted]
          omega
        · intro second others padded
          cases digits with
          | nil => exact present rfl
          | cons first tail =>
              obtain ⟨rfl, _⟩ := List.cons.inj padded
              cases tail with
              | nil =>
                  simp [ofDigits] at counted
                  omega
              | cons next tail => exact unpadded next tail rfl

theorem numeral_digitText (number : Nat) : Numeral (Number.digitText number) number := by
  obtain ⟨digits, each, counted, present, -⟩ := exists_digits number
  exact numeral_iff.mpr ⟨Nat.toDigits_ne_nil, digits, each, counted⟩

theorem mem_integerText {value : Int} {character : Char}
    (member : character ∈ Number.integerText value) :
    (digit? character).isSome ∨ character = '-' := by
  cases value with
  | ofNat magnitude => exact .inl ((numeral_digitText magnitude).isSome_of_mem member)
  | negSucc below =>
      rcases List.mem_cons.mp member with sign | digit
      · exact .inr sign
      · exact .inl ((numeral_digitText (below + 1)).isSome_of_mem digit)

theorem integerText_ne_nil (value : Int) : Number.integerText value ≠ [] := by
  cases value with
  | ofNat magnitude => exact (numeral_digitText magnitude).ne_nil
  | negSucc below => exact List.cons_ne_nil _ _

end Text

namespace Path

open Text (Numeral)

theorem magnitude?_eq_some_iff {text : List Char} {number : Nat} :
    magnitude? text = some number ↔ Numeral text number := by
  rw [Text.numeral_iff, magnitude?]
  split
  · rename_i empty
    simp [List.isEmpty_iff.mp empty]
  · rename_i present
    rw [Option.map_eq_some_iff]
    constructor
    · exact fun read => ⟨fun empty => present (List.isEmpty_iff.mpr empty), read⟩
    · exact fun read => read.2

/-- Decimal text of a signed integer of sixty-four bits. -/
inductive WritesInteger : List Char → Int → Prop where
  | unsigned {text : List Char} {magnitude : Nat} (numeral : Numeral text magnitude)
      (fits : magnitude < Number.negativeLimit) : WritesInteger text magnitude
  | positive {text : List Char} {magnitude : Nat} (numeral : Numeral text magnitude)
      (fits : magnitude < Number.negativeLimit) : WritesInteger ('+' :: text) magnitude
  | negative {text : List Char} {magnitude : Nat} (numeral : Numeral text magnitude)
      (fits : magnitude ≤ Number.negativeLimit) :
      WritesInteger ('-' :: text) (-(magnitude : Int))

theorem map_magnitude?_eq_some_iff {sign : Int → Int} {text : List Char} {value : Int} :
    (Option.map sign do
      let magnitude ← magnitude? text
      pure (magnitude : Int)) = some value ↔
    ∃ magnitude : Nat, Numeral text magnitude ∧ sign magnitude = value := by
  simp only [← magnitude?_eq_some_iff]
  cases magnitude? text with
  | none => exact ⟨nofun, nofun⟩
  | some magnitude => simp

theorem integer?_eq_some_iff {text : List Char} {value : Int} :
    integer? text = some value ↔ WritesInteger text value := by
  have within : 0 < Number.negativeLimit := twoTo_pos 63
  unfold integer?
  rw [Option.filter_eq_some_iff, decide_eq_true_iff]
  constructor
  · rintro ⟨read, fits⟩
    split at read
    · obtain ⟨magnitude, numeral, rfl⟩ := map_magnitude?_eq_some_iff.mp read
      exact .positive numeral (by omega)
    · obtain ⟨magnitude, numeral, rfl⟩ := map_magnitude?_eq_some_iff.mp read
      exact .negative numeral (by omega)
    · obtain ⟨magnitude, numeral, rfl⟩ := map_magnitude?_eq_some_iff.mp read
      exact .unsigned numeral (by omega)
  · intro writes
    cases writes with
    | unsigned numeral fits =>
        refine ⟨?_, by omega⟩
        split
        · cases numeral.isSome_of_mem List.mem_cons_self
        · cases numeral.isSome_of_mem List.mem_cons_self
        · exact map_magnitude?_eq_some_iff.mpr ⟨_, numeral, rfl⟩
    | positive numeral fits =>
        exact ⟨map_magnitude?_eq_some_iff.mpr ⟨_, numeral, rfl⟩, by omega⟩
    | negative numeral fits =>
        exact ⟨map_magnitude?_eq_some_iff.mpr ⟨_, numeral, rfl⟩, by omega⟩

/-- A signed integer of sixty-four bits. -/
def IsWord (value : Int) : Prop :=
  -(Number.negativeLimit : Int) ≤ value ∧ value < (Number.negativeLimit : Int)

theorem WritesInteger.isWord {text : List Char} {value : Int}
    (writes : WritesInteger text value) : IsWord value := by
  have within : 0 < Number.negativeLimit := twoTo_pos 63
  rw [IsWord]
  cases writes with
  | unsigned numeral fits => omega
  | positive numeral fits => omega
  | negative numeral fits => omega

theorem writesInteger_integerText {value : Int} (fits : IsWord value) :
    WritesInteger (Number.integerText value) value := by
  rw [IsWord] at fits
  cases value with
  | ofNat magnitude =>
      exact .unsigned (Text.numeral_digitText magnitude) (by simp at fits; omega)
  | negSucc below =>
      exact .negative (Text.numeral_digitText (below + 1)) (by omega)

end Path

end StatesLanguage
