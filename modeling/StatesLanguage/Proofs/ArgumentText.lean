import Mathlib.Data.List.Forall2
import StatesLanguage.Call.Arguments
import StatesLanguage.Proofs.Outcome
import StatesLanguage.Text.Digit

/-!
# Texts of arguments

A text passes from one position of an argument list to another if no character of it
separates arguments or closes what it did not open.  Texts that pass from outside of
everything back to there are what the splitter finds between commas, whatever blanks
stand around them.
-/

namespace StatesLanguage

namespace Text

/-- There is no blank at either end. -/
def Trimmed (text : List Char) : Prop :=
  (∀ character ∈ text.head?, isBlank character = false) ∧
    ∀ character ∈ text.getLast?, isBlank character = false

theorem trimmed_of_visible {text : List Char}
    (visible : ∀ character ∈ text, isBlank character = false) : Trimmed text :=
  ⟨fun character first => visible character (List.mem_of_mem_head? first),
    fun character last => visible character (List.mem_of_getLast? last)⟩

theorem trimmed_enclosed {opening closing : Char} {inside : List Char}
    (opens : isBlank opening = false) (closes : isBlank closing = false) :
    Trimmed (opening :: inside ++ [closing]) := by
  constructor
  · rintro character ⟨⟩
    exact opens
  · intro character last
    rw [List.getLast?_concat] at last
    cases last
    exact closes

/-- The first text is the second one with blanks around it. -/
def Pads (padded text : List Char) : Prop :=
  ∃ before after, (∀ character ∈ before, isBlank character = true) ∧
    (∀ character ∈ after, isBlank character = true) ∧ padded = before ++ text ++ after

theorem trimStart_append {before text : List Char}
    (blank : ∀ character ∈ before, isBlank character = true)
    (visible : ∀ character ∈ text.head?, isBlank character = false) :
    trimStart (before ++ text) = text := by
  rw [trimStart, List.dropWhile_append_of_pos blank]
  cases text with
  | nil => rfl
  | cons character text =>
      apply List.dropWhile_cons_of_neg
      rw [visible character rfl]
      exact Bool.false_ne_true

theorem Pads.trim_eq {padded text : List Char} (pads : Pads padded text) (present : text ≠ [])
    (trimmed : Trimmed text) : trim padded = text := by
  obtain ⟨before, after, before_blank, after_blank, rfl⟩ := pads
  obtain ⟨first, last⟩ := trimmed
  have started : trimStart (before ++ text ++ after) = text ++ after := by
    rw [List.append_assoc]
    apply trimStart_append before_blank
    rwa [List.head?_append_of_ne_nil text present]
  have ended : trimStart (text ++ after).reverse = text.reverse := by
    rw [List.reverse_append]
    apply trimStart_append
    · intro character member
      exact after_blank character (List.mem_reverse.mp member)
    · rwa [List.head?_reverse]
  rw [trim, started, ended, List.reverse_reverse]

end Text

namespace Arguments

open Outcome

/-- A text leads from one position to another, and no character of it separates. -/
inductive Scan.Passes : Scan → List Char → Scan → Prop where
  | nil (scan : Scan) : Passes scan [] scan
  | cons {scan next last : Scan} {character : Char} {text : List Char}
      (inside : scan.step character = .inside next) (rest : Passes next text last) :
      Passes scan (character :: text) last

open Scan (Passes)

theorem Scan.Passes.append {scan middle last : Scan} {first second : List Char}
    (early : Passes scan first middle) (late : Passes middle second last) :
    Passes scan (first ++ second) last := by
  induction early with
  | nil scan => exact late
  | cons inside rest induction => exact .cons inside (induction late)

theorem Scan.Passes.flatMap {scan : Scan} {write : Char → List Char} {text : List Char}
    (each : ∀ character ∈ text, Passes scan (write character) scan) :
    Passes scan (text.flatMap write) scan := by
  induction text with
  | nil => exact .nil scan
  | cons character text induction =>
      obtain ⟨first, others⟩ := List.forall_mem_cons.mp each
      rw [List.flatMap_cons]
      exact first.append (induction others)

theorem Scan.Passes.intercalate {scan : Scan} {separator : List Char}
    (between : Passes scan separator scan) {texts : List (List Char)}
    (each : ∀ text ∈ texts, Passes scan text scan) :
    Passes scan (separator.intercalate texts) scan := by
  induction texts with
  | nil => exact .nil scan
  | cons text texts induction =>
      obtain ⟨first, others⟩ := List.forall_mem_cons.mp each
      cases texts with
      | nil =>
          rw [List.intercalate_singleton]
          exact first
      | cons second texts =>
          rw [List.intercalate_cons_cons, List.append_assoc]
          exact first.append (between.append (induction others))

/-- The characters that quote, nest or separate. -/
def delimiters : List Char :=
  ['\x27', '\x22', '\x7b', '[', '\x7d', ']', ',']

/-- A character that stands for itself. -/
def IsOrdinary (character : Char) : Prop :=
  character ∉ delimiters

instance (character : Char) : Decidable (IsOrdinary character) :=
  inferInstanceAs (Decidable (character ∉ _))

theorem isOrdinary_of {test : Char → Bool} (fails : delimiters.any test = false)
    {character : Char} (holds : test character = true) : IsOrdinary character := by
  intro member
  have passed := List.any_eq_true.mpr ⟨character, member, holds⟩
  rw [fails] at passed
  cases passed

theorem IsOrdinary.step {character : Char} (ordinary : IsOrdinary character) (depth : Nat) :
    (Scan.plain depth).step character = .inside (.plain depth) := by
  simp only [IsOrdinary, delimiters, List.mem_cons, List.not_mem_nil, or_false, not_or]
    at ordinary
  obtain ⟨single, double, openBrace, openBracket, closeBrace, closeBracket, comma⟩ := ordinary
  simp [Scan.step, single, double, openBrace, openBracket, closeBrace, closeBracket, comma]

theorem passes_of_ordinary {text : List Char}
    (ordinary : ∀ character ∈ text, IsOrdinary character) (depth : Nat) :
    Passes (.plain depth) text (.plain depth) := by
  induction text with
  | nil => exact .nil _
  | cons character text induction =>
      obtain ⟨first, others⟩ := List.forall_mem_cons.mp ordinary
      exact .cons (first.step depth) (induction others)

theorem isOrdinary_of_digit {character : Char} (counts : (Text.digit? character).isSome) :
    IsOrdinary character := by
  have fails : delimiters.any (fun other => (Text.digit? other).isSome) = false := rfl
  exact isOrdinary_of fails counts

theorem isOrdinary_of_isBlank {character : Char} (blank : Text.isBlank character = true) :
    IsOrdinary character :=
  isOrdinary_of rfl blank

theorem passes_of_blanks {blanks : List Char}
    (blank : ∀ character ∈ blanks, Text.isBlank character = true) (depth : Nat) :
    Passes (.plain depth) blanks (.plain depth) :=
  passes_of_ordinary (fun character member => isOrdinary_of_isBlank (blank character member))
    depth

theorem passes_of_pads {padded text : List Char} (pads : Text.Pads padded text) {depth : Nat}
    (passes : Passes (.plain depth) text (.plain depth)) :
    Passes (.plain depth) padded (.plain depth) := by
  obtain ⟨before, after, before_blank, after_blank, rfl⟩ := pads
  have early := passes_of_blanks before_blank depth
  have late := passes_of_blanks after_blank depth
  exact (early.append passes).append late

theorem foldr_prepend (text : List Char) (parts : List (List Char)) :
    text.foldr prepend ([] :: parts) = text :: parts := by
  induction text with
  | nil => rfl
  | cons character text induction =>
      rw [List.foldr_cons, induction]
      rfl

/-- A text that passes goes before the first part of what follows. -/
theorem splitFrom_append {scan last : Scan} {text : List Char}
    (passes : Passes scan text last) (rest : List Char) :
    splitFrom scan (text ++ rest) =
      (splitFrom last rest).map fun parts => text.foldr prepend parts := by
  induction passes with
  | nil scan => exact (map_eq_self fun _ => rfl).symm
  | cons inside later induction =>
      rw [List.cons_append, splitFrom, inside]
      dsimp only
      rw [induction, map_map]
      rfl

theorem splitFrom_intercalate {texts : List (List Char)} (present : texts ≠ [])
    (each : ∀ text ∈ texts, Passes (.plain 0) text (.plain 0)) :
    splitFrom (.plain 0) ([','].intercalate texts) = .ok texts := by
  induction texts with
  | nil => exact absurd rfl present
  | cons text texts induction =>
      obtain ⟨first, others⟩ := List.forall_mem_cons.mp each
      cases texts with
      | nil =>
          have alone := splitFrom_append first []
          rw [List.append_nil] at alone
          rw [List.intercalate_singleton, alone, splitFrom, Except.map, foldr_prepend]
      | cons second texts =>
          have separated : ∀ rest, splitFrom (.plain 0) (',' :: rest) =
              (splitFrom (.plain 0) rest).map ([] :: ·) := fun _ => rfl
          rw [List.intercalate_cons_cons, List.append_assoc, List.singleton_append,
            splitFrom_append first, separated, induction (List.cons_ne_nil _ _) others]
          exact congrArg Except.ok (foldr_prepend text (second :: texts))

/-- A text that may stand for an argument. -/
structure SelfContained (text : List Char) : Prop where
  present : text ≠ []
  trimmed : Text.Trimmed text
  passes : Passes (.plain 0) text (.plain 0)

theorem map_trim_of_pads {padded texts : List (List Char)}
    (pads : List.Forall₂ Text.Pads padded texts)
    (contained : ∀ text ∈ texts, SelfContained text) : padded.map Text.trim = texts := by
  induction pads with
  | nil => rfl
  | cons pads rest induction =>
      obtain ⟨first, others⟩ := List.forall_mem_cons.mp contained
      rw [List.map_cons, pads.trim_eq first.present first.trimmed, induction others]

theorem forall_passes_of_pads {padded texts : List (List Char)}
    (pads : List.Forall₂ Text.Pads padded texts)
    (contained : ∀ text ∈ texts, SelfContained text) :
    ∀ part ∈ padded, Passes (.plain 0) part (.plain 0) := by
  induction pads with
  | nil => nofun
  | cons pads rest induction =>
      obtain ⟨first, others⟩ := List.forall_mem_cons.mp contained
      exact List.forall_mem_cons.mpr ⟨passes_of_pads pads first.passes, induction others⟩

/-- Self-contained texts that are joined by commas, with blanks around each, are split into
these texts. -/
theorem split_intercalate {padded texts : List (List Char)} (present : texts ≠ [])
    (contained : ∀ text ∈ texts, SelfContained text)
    (pads : List.Forall₂ Text.Pads padded texts) :
    split ([','].intercalate padded) = .ok texts := by
  have some_padded : padded ≠ [] := by
    rintro rfl
    cases pads
    exact present rfl
  have filled : ¬ texts.any (·.isEmpty) = true := by
    intro empty
    obtain ⟨text, member, text_empty⟩ := List.any_eq_true.mp empty
    exact (contained text member).present (List.isEmpty_iff.mp text_empty)
  rw [split, splitFrom_intercalate some_padded (forall_passes_of_pads pads contained)]
  simp only [bind, Except.bind, map_trim_of_pads pads contained, if_neg filled]

end Arguments

end StatesLanguage
