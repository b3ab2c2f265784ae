import Mathlib.Data.List.TakeWhile
import StatesLanguage.Proofs.ArgumentText

/-!
# Splitting argument lists

A self-contained text is described by its nesting: quotes stand in pairs, brackets and
braces open before they close, and no comma stands outside of them.  The splitter finds such
texts exactly in the lists that join them by commas, with any blanks around each.
-/

namespace StatesLanguage

namespace Text

theorem exists_trimStart (text : List Char) :
    ∃ before, (∀ character ∈ before, isBlank character = true) ∧
      text = before ++ trimStart text :=
  ⟨text.takeWhile isBlank, fun _ member => List.mem_takeWhile_imp member,
    List.takeWhile_append_dropWhile.symm⟩

theorem head?_trimStart (text : List Char) :
    ∀ character ∈ (trimStart text).head?, isBlank character = false := by
  intro character first
  have visible := List.head?_dropWhile_not isBlank text
  rw [show (text.dropWhile isBlank).head? = some character from first] at visible
  simpa using visible

theorem exists_trim (text : List Char) :
    ∃ after, (∀ character ∈ after, isBlank character = true) ∧
      trimStart text = trim text ++ after := by
  obtain ⟨after, blank, ended⟩ := exists_trimStart (trimStart text).reverse
  refine ⟨after.reverse, ?_, ?_⟩
  · intro character member
    exact blank character (List.mem_reverse.mp member)
  · have whole := congrArg List.reverse ended
    rwa [List.reverse_reverse, List.reverse_append] at whole

theorem pads_trim (text : List Char) : Pads text (trim text) := by
  obtain ⟨before, before_blank, started⟩ := exists_trimStart text
  obtain ⟨after, after_blank, ended⟩ := exists_trim text
  refine ⟨before, after, before_blank, after_blank, ?_⟩
  rw [List.append_assoc, ← ended]
  exact started

theorem trimmed_trim (text : List Char) : Trimmed (trim text) := by
  constructor
  · intro character first
    obtain ⟨after, _, ended⟩ := exists_trim text
    apply head?_trimStart text
    rw [ended]
    exact List.mem_head?_append_of_mem_head? first
  · intro character last
    rw [trim, List.getLast?_reverse] at last
    exact head?_trimStart _ character last

end Text

namespace Arguments

open Outcome
open Scan (Passes)

/-- Between quotes, a backslash takes the next character with it, and any other character but
the quote stands for itself. -/
inductive Enclosed (quote : Char) : List Char → Prop where
  | nil : Enclosed quote []
  | plain {character : Char} {text : List Char} (notEscape : character ≠ '\x5c')
      (notQuote : character ≠ quote) (rest : Enclosed quote text) :
      Enclosed quote (character :: text)
  | escaped (character : Char) {text : List Char} (rest : Enclosed quote text) :
      Enclosed quote ('\x5c' :: character :: text)

/-- A text that leads from one depth of brackets and braces to another, outside of quotes at
both ends.  Commas stand inside of brackets, braces or quotes. -/
inductive Nests : Nat → List Char → Nat → Prop where
  | nil (depth : Nat) : Nests depth [] depth
  | quoted {depth last : Nat} {quote : Char} {inside text : List Char}
      (quotes : quote = '\x27' ∨ quote = '\x22') (enclosed : Enclosed quote inside)
      (rest : Nests depth text last) : Nests depth (quote :: (inside ++ quote :: text)) last
  | opening {depth last : Nat} {character : Char} {text : List Char}
      (opens : character = '\x7b' ∨ character = '[') (rest : Nests (depth + 1) text last) :
      Nests depth (character :: text) last
  | closing {depth last : Nat} {character : Char} {text : List Char}
      (closes : character = '\x7d' ∨ character = ']') (rest : Nests depth text last) :
      Nests (depth + 1) (character :: text) last
  | comma {depth last : Nat} {text : List Char} (rest : Nests (depth + 1) text last) :
      Nests (depth + 1) (',' :: text) last
  | ordinary {depth last : Nat} {character : Char} {text : List Char}
      (ordinary : IsOrdinary character) (rest : Nests depth text last) :
      Nests depth (character :: text) last

theorem Enclosed.passes {quote : Char} {inside : List Char} (enclosed : Enclosed quote inside)
    (depth : Nat) : Passes (.quoted quote depth) inside (.quoted quote depth) := by
  induction enclosed with
  | nil => exact .nil _
  | plain notEscape notQuote rest induction =>
      apply Passes.cons _ induction
      rw [Scan.step, if_neg notEscape, if_neg notQuote]
  | escaped character rest induction => exact .cons rfl (.cons rfl induction)

theorem Nests.passes {depth last : Nat} {text : List Char} (nests : Nests depth text last) :
    Passes (.plain depth) text (.plain last) := by
  induction nests with
  | nil depth => exact .nil _
  | @quoted depth last quote inside text quotes enclosed rest induction =>
      have closes : (Scan.quoted quote depth).step quote = .inside (.plain depth) := by
        rcases quotes with rfl | rfl <;> rfl
      have opens : (Scan.plain depth).step quote = .inside (.quoted quote depth) := by
        rcases quotes with rfl | rfl <;> rfl
      exact .cons opens ((enclosed.passes depth).append (.cons closes induction))
  | opening opens rest induction =>
      apply Passes.cons _ induction
      rcases opens with rfl | rfl <;> rfl
  | closing closes rest induction =>
      apply Passes.cons _ induction
      rcases closes with rfl | rfl <;> rfl
  | comma rest induction => exact .cons rfl induction
  | ordinary ordinary rest induction => exact .cons (ordinary.step _) induction

/-- Everything that a character can do. -/
inductive Scan.Moves : Scan → Char → Effect → Prop where
  | quote {depth : Nat} {character : Char}
      (quotes : character = '\x27' ∨ character = '\x22') :
      Moves (.plain depth) character (.inside (.quoted character depth))
  | opening {depth : Nat} {character : Char} (opens : character = '\x7b' ∨ character = '[') :
      Moves (.plain depth) character (.inside (.plain (depth + 1)))
  | closing {depth : Nat} {character : Char} (closes : character = '\x7d' ∨ character = ']') :
      Moves (.plain (depth + 1)) character (.inside (.plain depth))
  | unbalanced {character : Char} : Moves (.plain 0) character .unbalanced
  | separator : Moves (.plain 0) ',' .separates
  | comma {depth : Nat} : Moves (.plain (depth + 1)) ',' (.inside (.plain (depth + 1)))
  | ordinary {depth : Nat} {character : Char} (ordinary : IsOrdinary character) :
      Moves (.plain depth) character (.inside (.plain depth))
  | escape {depth : Nat} {quote : Char} :
      Moves (.quoted quote depth) '\x5c' (.inside (.escaped quote depth))
  | unquote {depth : Nat} {quote : Char} :
      Moves (.quoted quote depth) quote (.inside (.plain depth))
  | within {depth : Nat} {quote character : Char} (notEscape : character ≠ '\x5c')
      (notQuote : character ≠ quote) :
      Moves (.quoted quote depth) character (.inside (.quoted quote depth))
  | escaped {depth : Nat} {quote character : Char} :
      Moves (.escaped quote depth) character (.inside (.quoted quote depth))

theorem Scan.moves_plain (depth : Nat) (character : Char) :
    Moves (.plain depth) character ((Scan.plain depth).step character) := by
  by_cases quotes : character = '\x27' ∨ character = '\x22'
  · simp only [Scan.step, if_pos quotes]
    exact .quote quotes
  by_cases opens : character = '\x7b' ∨ character = '['
  · simp only [Scan.step, if_neg quotes, if_pos opens]
    exact .opening opens
  by_cases closes : character = '\x7d' ∨ character = ']'
  · simp only [Scan.step, if_neg quotes, if_neg opens, if_pos closes]
    cases depth with
    | zero => exact .unbalanced
    | succ depth => exact .closing closes
  by_cases comma : character = ','
  · subst comma
    cases depth with
    | zero => exact .separator
    | succ depth => exact .comma
  have ordinary : IsOrdinary character := by
    simp only [IsOrdinary, delimiters, List.mem_cons, List.not_mem_nil, or_false]
    tauto
  rw [ordinary.step]
  exact .ordinary ordinary

theorem Scan.moves (scan : Scan) (character : Char) :
    Moves scan character (scan.step character) := by
  cases scan with
  | plain depth => exact moves_plain depth character
  | quoted quote depth =>
      by_cases escape : character = '\x5c'
      · subst escape
        exact .escape
      · by_cases ends : character = quote
        · subst ends
          rw [Scan.step, if_neg escape, if_pos rfl]
          exact .unquote
        · rw [Scan.step, if_neg escape, if_neg ends]
          exact .within escape ends
  | escaped quote depth => exact .escaped

/-- A position that a text can lead to from outside of quotes. -/
def Scan.IsProper : Scan → Prop
  | .plain _ => True
  | .quoted quote _ | .escaped quote _ => quote = '\x27' ∨ quote = '\x22'

/-- A text goes on from a position and ends outside of quotes. -/
def Scan.Completes : Scan → List Char → Nat → Prop
  | .plain depth, text, last => Nests depth text last
  | .quoted quote depth, text, last =>
      ∃ inside rest, Enclosed quote inside ∧ text = inside ++ quote :: rest ∧
        Nests depth rest last
  | .escaped quote depth, text, last =>
      ∃ character inside rest, Enclosed quote inside ∧
        text = character :: (inside ++ quote :: rest) ∧ Nests depth rest last

theorem Scan.IsProper.step {scan next : Scan} {character : Char} (proper : scan.IsProper)
    (inside : scan.step character = .inside next) : next.IsProper := by
  have moves := scan.moves character
  rw [inside] at moves
  cases moves with
  | quote quotes => exact quotes
  | opening | closing | comma | ordinary | unquote => trivial
  | escape | within | escaped => exact proper

/-- A text that is passed over goes on from the position before it, which changes along the
induction with the text that is left. -/
theorem Scan.Passes.completes {scan : Scan} {text : List Char} {last : Nat}
    (passes : Passes scan text (.plain last)) (proper : scan.IsProper) :
    scan.Completes text last := by
  generalize ends : Scan.plain last = final at passes
  induction passes with
  | nil scan =>
      subst ends
      exact .nil last
  | @cons scan next final character text inside later induction =>
      have completes := induction (proper.step inside) ends
      have moves := scan.moves character
      rw [inside] at moves
      cases moves with
      | quote quotes =>
          obtain ⟨within, rest, enclosed, rfl, nests⟩ := completes
          exact .quoted quotes enclosed nests
      | opening opens => exact .opening opens completes
      | closing closes => exact .closing closes completes
      | comma => exact .comma completes
      | ordinary ordinary => exact .ordinary ordinary completes
      | escape =>
          obtain ⟨taken, within, rest, enclosed, rfl, nests⟩ := completes
          exact ⟨'\x5c' :: taken :: within, rest, .escaped taken enclosed, rfl, nests⟩
      | unquote => exact ⟨[], text, .nil, rfl, completes⟩
      | within notEscape notQuote =>
          obtain ⟨within, rest, enclosed, rfl, nests⟩ := completes
          exact ⟨character :: within, rest, .plain notEscape notQuote enclosed, rfl, nests⟩
      | escaped =>
          obtain ⟨within, rest, enclosed, rfl, nests⟩ := completes
          exact ⟨character, within, rest, enclosed, rfl, nests⟩

theorem nests_iff_passes {depth last : Nat} {text : List Char} :
    Nests depth text last ↔ Passes (.plain depth) text (.plain last) :=
  ⟨Nests.passes, fun passes => passes.completes trivial⟩

/-- A self-contained text, described by its nesting. -/
structure StandsAlone (text : List Char) : Prop where
  present : text ≠ []
  trimmed : Text.Trimmed text
  nests : Nests 0 text 0

theorem standsAlone_iff_selfContained {text : List Char} :
    StandsAlone text ↔ SelfContained text := by
  constructor
  · rintro ⟨present, trimmed, nests⟩
    exact ⟨present, trimmed, nests.passes⟩
  · rintro ⟨present, trimmed, passes⟩
    exact ⟨present, trimmed, nests_iff_passes.mpr passes⟩

theorem Scan.Passes.split {scan last : Scan} {first second : List Char}
    (passes : Passes scan (first ++ second) last) :
    ∃ middle, Passes scan first middle ∧ Passes middle second last := by
  induction first generalizing scan with
  | nil => exact ⟨scan, .nil scan, passes⟩
  | cons character first induction =>
      cases passes with
      | cons inside rest =>
          obtain ⟨middle, early, late⟩ := induction rest
          exact ⟨middle, .cons inside early, late⟩

theorem Scan.Passes.eq {scan last other : Scan} {text : List Char}
    (passes : Passes scan text last) (again : Passes scan text other) : last = other := by
  induction passes with
  | nil scan =>
      cases again
      rfl
  | cons inside rest induction =>
      cases again with
      | cons sameInside others =>
          rw [inside] at sameInside
          cases sameInside
          exact induction others

theorem Scan.Passes.proper {scan last : Scan} {text : List Char}
    (passes : Passes scan text last) (proper : scan.IsProper) : last.IsProper := by
  induction passes with
  | nil scan => exact proper
  | cons inside rest induction => exact induction (proper.step inside)

/-- Blanks do not leave quotes. -/
theorem Scan.Passes.eq_plain {scan : Scan} {depth : Nat} {blanks : List Char}
    (passes : Passes scan blanks (.plain depth)) (proper : scan.IsProper)
    (blank : ∀ character ∈ blanks, Text.isBlank character = true) : scan = .plain depth := by
  have completes := passes.completes proper
  have unquoted : ∀ quote ∈ blanks, ¬ (quote = '\x27' ∨ quote = '\x22') := by
    rintro quote member (rfl | rfl) <;> cases blank _ member
  cases scan with
  | plain start => exact (passes_of_blanks blank start).eq passes
  | quoted quote start =>
      obtain ⟨inside, rest, _, rfl, _⟩ := completes
      exact (unquoted quote (by simp) proper).elim
  | escaped quote start =>
      obtain ⟨character, inside, rest, _, rfl, _⟩ := completes
      exact (unquoted quote (by simp) proper).elim

theorem eq_of_separates {scan : Scan} {character : Char}
    (separates : scan.step character = .separates) : scan = .plain 0 ∧ character = ',' := by
  have moves := scan.moves character
  rw [separates] at moves
  cases moves with
  | separator => exact ⟨rfl, rfl⟩

/-- The parts of a text pass one by one, and joined by commas they are the text. -/
theorem intercalate_of_splitFrom {scan : Scan} {text : List Char} {parts : List (List Char)}
    (split : splitFrom scan text = .ok parts) :
    ∃ first others, parts = first :: others ∧ Passes scan first (.plain 0) ∧
      (∀ part ∈ others, Passes (.plain 0) part (.plain 0)) ∧
      text = [','].intercalate parts := by
  fun_induction splitFrom scan text generalizing parts with
  | case1 =>
      cases split
      exact ⟨[], [], rfl, .nil _, nofun, rfl⟩
  | case2 => cases split
  | case3 scan character rest next inside induction =>
      obtain ⟨parts, found, rfl⟩ := map_eq_ok.mp split
      obtain ⟨first, others, rfl, passes, each, rfl⟩ := induction found
      refine ⟨character :: first, others, rfl, .cons inside passes, each, ?_⟩
      cases others with
      | nil => rfl
      | cons second others => simp only [prepend, List.intercalate_cons_cons, List.cons_append]
  | case4 scan character rest separates induction =>
      obtain ⟨parts, found, rfl⟩ := map_eq_ok.mp split
      obtain ⟨first, others, rfl, passes, each, rfl⟩ := induction found
      obtain ⟨rfl, rfl⟩ := eq_of_separates separates
      refine ⟨[], first :: others, rfl, .nil _, ?_, ?_⟩
      · exact List.forall_mem_cons.mpr ⟨passes, each⟩
      · rw [List.intercalate_cons_cons]
        rfl
  | case5 => cases split

theorem passes_trim {part : List Char} (passes : Passes (.plain 0) part (.plain 0)) :
    Passes (.plain 0) (Text.trim part) (.plain 0) := by
  obtain ⟨before, after, before_blank, after_blank, padded⟩ := Text.pads_trim part
  rw [padded, List.append_assoc] at passes
  obtain ⟨start, early, passes⟩ := passes.split
  obtain ⟨stop, passes, late⟩ := passes.split
  cases early.eq (passes_of_blanks before_blank 0)
  cases late.eq_plain (passes.proper trivial) after_blank
  exact passes

/-- A list is split into some texts exactly if these are self-contained and the list joins
them by commas, with any blanks around each. -/
theorem split_eq_ok_iff {raw : List Char} {texts : List (List Char)} :
    split raw = .ok texts ↔
      texts ≠ [] ∧ (∀ text ∈ texts, StandsAlone text) ∧
        ∃ padded, List.Forall₂ Text.Pads padded texts ∧ raw = [','].intercalate padded := by
  constructor
  · intro succeeded
    obtain ⟨parts, found, trimmed⟩ := bind_eq_ok.mp succeeded
    obtain ⟨first, others, same, passes, each, joined⟩ := intercalate_of_splitFrom found
    have every : ∀ part ∈ parts, Passes (.plain 0) part (.plain 0) := by
      rw [same]
      exact List.forall_mem_cons.mpr ⟨passes, each⟩
    dsimp only at trimmed
    split at trimmed
    · cases trimmed
    · rename_i filled
      cases trimmed
      refine ⟨?_, ?_, parts, ?_, joined⟩
      · rw [same]
        exact List.cons_ne_nil _ _
      · intro text member
        obtain ⟨part, part_member, rfl⟩ := List.mem_map.mp member
        have present : Text.trim part ≠ [] := by
          intro empty
          exact filled (List.any_eq_true.mpr ⟨_, member, List.isEmpty_iff.mpr empty⟩)
        exact standsAlone_iff_selfContained.mpr
          ⟨present, Text.trimmed_trim part, passes_trim (every part part_member)⟩
      · exact List.forall₂_map_right_iff.mpr
          (List.forall₂_same.mpr fun part _ => Text.pads_trim part)
  · rintro ⟨present, alone, padded, pads, rfl⟩
    refine split_intercalate present ?_ pads
    intro text member
    exact standsAlone_iff_selfContained.mp (alone text member)

end Arguments

end StatesLanguage
