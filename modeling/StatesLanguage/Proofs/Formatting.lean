import Mathlib.Data.List.Infix
import StatesLanguage.Call

/-!
# Formatting

A pattern is a text with placeholders between its pieces.  Filling a pattern puts the values
in the places of its placeholders at once: no piece and no value is looked at for further
placeholders, so patterns may also be filled piece by piece.
-/

namespace StatesLanguage

namespace Intrinsic

/-- What a value is filled in for. -/
def placeholder : List Char :=
  ['\x7b', '\x7d']

/-- The texts before the first placeholder of a pattern and behind each of them. -/
structure Pieces (pattern first : List Char) (others : List (List Char)) : Prop where
  joined : pattern = first ++ others.flatMap (placeholder ++ ·)
  free : ∀ piece ∈ first :: others, ¬ placeholder <:+: piece

/-- A placeholder begins at the end of one text and ends at the beginning of the next. -/
def Straddles (text rest : List Char) : Prop :=
  text.getLast? = some '\x7b' ∧ rest.head? = some '\x7d'

theorem not_straddles_placeholder (text rest : List Char) :
    ¬ Straddles text (placeholder ++ rest) := by
  rintro ⟨_, closes⟩
  cases closes

theorem not_straddles_nil (text : List Char) : ¬ Straddles text [] := by
  rintro ⟨_, closes⟩
  cases closes

theorem Straddles.append {text rest : List Char} (straddles : Straddles text rest)
    (before : List Char) : Straddles (before ++ text) rest := by
  refine ⟨?_, straddles.2⟩
  rw [List.getLast?_append, straddles.1]
  rfl

theorem Pieces.rest {pattern first piece : List Char} {others : List (List Char)}
    (pieces : Pieces pattern first (piece :: others)) :
    Pieces (piece ++ others.flatMap (placeholder ++ ·)) piece others :=
  ⟨rfl, (List.forall_mem_cons.mp pieces.free).2⟩

theorem Pieces.eq_append {pattern first piece : List Char} {others : List (List Char)}
    (pieces : Pieces pattern first (piece :: others)) :
    pattern = first ++ (placeholder ++ (piece ++ others.flatMap (placeholder ++ ·))) := by
  rw [pieces.joined, List.flatMap_cons, List.append_assoc]

theorem placeholder_infix_cons {character : Char} {text : List Char} :
    placeholder <:+: character :: text ↔
      character = '\x7b' ∧ text.head? = some '\x7d' ∨ placeholder <:+: text := by
  rw [List.infix_cons_iff, placeholder, List.cons_prefix_cons]
  cases text with
  | nil => simp
  | cons next rest => simp [eq_comm]

theorem Pieces.cons {character : Char} {pattern first : List Char} {others : List (List Char)}
    (pieces : Pieces pattern first others)
    (unopened : ¬ (character = '\x7b' ∧ pattern.head? = some '\x7d')) :
    Pieces (character :: pattern) (character :: first) others := by
  obtain ⟨first_free, others_free⟩ := List.forall_mem_cons.mp pieces.free
  refine ⟨congrArg (character :: ·) pieces.joined, List.forall_mem_cons.mpr ⟨?_, others_free⟩⟩
  rw [placeholder_infix_cons]
  rintro (⟨opens, closes⟩ | inside)
  · apply unopened ⟨opens, _⟩
    rw [pieces.joined, List.head?_append, closes]
    rfl
  · exact first_free inside

theorem Pieces.behind_placeholder {pattern first : List Char} {others : List (List Char)}
    (pieces : Pieces pattern first others) :
    Pieces (placeholder ++ pattern) [] (first :: others) := by
  refine ⟨?_, List.forall_mem_cons.mpr ⟨by decide, pieces.free⟩⟩
  rw [pieces.joined, List.nil_append, List.flatMap_cons, List.append_assoc]

theorem exists_pieces : ∀ pattern : List Char, ∃ first others, Pieces pattern first others
  | [] => ⟨[], [], rfl, by decide⟩
  | character :: rest => by
      by_cases opens : character = '\x7b' ∧ rest.head? = some '\x7d'
      · obtain ⟨rfl, closes⟩ := opens
        obtain ⟨after, rfl⟩ := List.head?_eq_some_iff.mp closes
        obtain ⟨first, others, pieces⟩ := exists_pieces after
        exact ⟨[], first :: others, pieces.behind_placeholder⟩
      · obtain ⟨first, others, pieces⟩ := exists_pieces rest
        exact ⟨character :: first, others, pieces.cons opens⟩

/-- What a piece without placeholders has more than another one would be part of the
placeholder behind the other. -/
private theorem Pieces.extra_eq_nil {first extra : List Char} {others more : List (List Char)}
    (free : ¬ placeholder <:+: first ++ extra)
    (same : others.flatMap (placeholder ++ ·) =
      extra ++ more.flatMap (placeholder ++ ·)) : extra = [] := by
  cases extra with
  | nil => rfl
  | cons character extra =>
      exfalso
      cases others with
      | nil => cases same
      | cons piece others =>
          obtain ⟨rfl, closes⟩ := List.cons.inj same
          cases extra with
          | nil =>
              cases more with
              | nil => cases closes
              | cons next more => cases closes
          | cons closing extra =>
              obtain ⟨rfl, _⟩ := List.cons.inj closes
              exact free ⟨first, extra, List.append_assoc _ _ _⟩

theorem Pieces.first_eq {pattern first other : List Char} {others more : List (List Char)}
    (pieces : Pieces pattern first others) (second : Pieces pattern other more) :
    first = other := by
  have joined := pieces.joined.symm.trans second.joined
  rcases List.append_eq_append_iff.mp joined with ⟨extra, longer, rest⟩ | ⟨extra, longer, rest⟩
  · have free := (List.forall_mem_cons.mp second.free).1
    rw [longer] at free
    rw [longer, Pieces.extra_eq_nil free rest, List.append_nil]
  · have free := (List.forall_mem_cons.mp pieces.free).1
    rw [longer] at free
    rw [longer, Pieces.extra_eq_nil free rest, List.append_nil]

theorem Pieces.unique {pattern first other : List Char} {others more : List (List Char)}
    (pieces : Pieces pattern first others) (second : Pieces pattern other more) :
    first = other ∧ others = more := by
  induction others generalizing pattern first other more with
  | nil =>
      obtain rfl := pieces.first_eq second
      have rest := List.append_cancel_left (pieces.joined.symm.trans second.joined)
      cases more with
      | nil => exact ⟨rfl, rfl⟩
      | cons next more => cases rest
  | cons piece others induction =>
      obtain rfl := pieces.first_eq second
      have rest := List.append_cancel_left (pieces.joined.symm.trans second.joined)
      cases more with
      | nil => cases rest
      | cons next more =>
          rw [List.flatMap_cons, List.flatMap_cons, List.append_assoc, List.append_assoc] at rest
          have tails := List.append_cancel_left rest
          have later := second.rest
          rw [← tails] at later
          obtain ⟨rfl, rfl⟩ := induction pieces.rest later
          exact ⟨rfl, rfl⟩

theorem fill_nil (pattern : List Char) : fill pattern [] = pattern := by
  induction pattern with
  | nil => rfl
  | cons character rest induction =>
      rw [fill, induction]
      nofun

theorem fill_cons_of_unopened {character : Char} {rest : List Char}
    (unopened : ¬ (character = '\x7b' ∧ rest.head? = some '\x7d')) (values : List Document) :
    fill (character :: rest) values = character :: fill rest values := by
  rw [fill]
  intro after value others _ opens closes
  exact unopened ⟨opens, congrArg List.head? closes⟩

theorem fill_piece_append {piece rest : List Char} (free : ¬ placeholder <:+: piece)
    (apart : ¬ Straddles piece rest) (values : List Document) :
    fill (piece ++ rest) values = piece ++ fill rest values := by
  induction piece with
  | nil => rfl
  | cons character piece induction =>
      rw [placeholder_infix_cons, not_or] at free
      have later : ¬ Straddles piece rest := fun straddles => apart (straddles.append [character])
      rw [List.cons_append, fill_cons_of_unopened, induction free.2 later, List.cons_append]
      rintro ⟨opens, closes⟩
      cases piece with
      | nil => exact apart ⟨congrArg some opens, closes⟩
      | cons next piece => exact free.1 ⟨opens, closes⟩

/-- The first value takes the place of the first placeholder, and what is behind it is filled
with the other values. -/
theorem Pieces.fill_first {pattern first piece : List Char} {others : List (List Char)}
    (pieces : Pieces pattern first (piece :: others)) (more : List Char) (value : Document)
    (values : List Document) :
    fill (pattern ++ more) (value :: values) =
      first ++ (rendered value ++
        fill (piece ++ others.flatMap (placeholder ++ ·) ++ more) values) := by
  have free := (List.forall_mem_cons.mp pieces.free).1
  rw [pieces.eq_append, List.append_assoc, List.append_assoc,
    fill_piece_append free (not_straddles_placeholder _ _)]
  rfl

/-- The pieces of a pattern with values between them as far as there are values, and with
placeholders between the others. -/
def substituted (first : List Char) (others : List (List Char)) (values : List Document) :
    List Char :=
  first ++ (List.zipWith (fun value piece => rendered value ++ piece) values others).flatten ++
    (others.drop values.length).flatMap (placeholder ++ ·)

theorem Pieces.fill_eq {pattern first : List Char} {others : List (List Char)}
    (pieces : Pieces pattern first others) (values : List Document) :
    fill pattern values = substituted first others values := by
  induction others generalizing pattern first values with
  | nil =>
      have free := (List.forall_mem_cons.mp pieces.free).1
      rw [pieces.joined, List.flatMap_nil, fill_piece_append free (not_straddles_nil first)]
      simp [substituted, fill]
  | cons piece others induction =>
      cases values with
      | nil =>
          rw [fill_nil, pieces.joined]
          simp [substituted]
      | cons value values =>
          have filled := pieces.fill_first [] value values
          rw [List.append_nil, List.append_nil, induction pieces.rest] at filled
          rw [filled]
          simp [substituted]

/-- A pattern that ends in no half of a placeholder is filled before what follows it. -/
theorem Pieces.fill_append {pattern first more : List Char} {others : List (List Char)}
    (pieces : Pieces pattern first others) (apart : ¬ Straddles pattern more)
    (values : List Document) :
    fill (pattern ++ more) values =
      fill pattern (values.take others.length) ++ fill more (values.drop others.length) := by
  induction others generalizing pattern first values with
  | nil =>
      have free := (List.forall_mem_cons.mp pieces.free).1
      have whole : pattern = first := by
        rw [pieces.joined, List.flatMap_nil, List.append_nil]
      subst whole
      rw [fill_piece_append free apart, List.length_nil, List.take_zero, List.drop_zero,
        fill_nil]
  | cons piece others induction =>
      cases values with
      | nil => simp only [List.take_nil, List.drop_nil, fill_nil]
      | cons value values =>
          have later : ¬ Straddles (piece ++ others.flatMap (placeholder ++ ·)) more := by
            intro straddles
            apply apart
            rw [pieces.eq_append]
            exact (straddles.append _).append _
          have own := pieces.fill_first [] value (values.take others.length)
          rw [List.append_nil, List.append_nil] at own
          rw [pieces.fill_first, induction pieces.rest later, List.length_cons,
            List.take_succ_cons, List.drop_succ_cons, own]
          simp only [List.append_assoc]

theorem apply_format (pattern : String) (values : List Document) :
    format.apply (.string pattern :: values) =
      .ok (.string (String.ofList (fill pattern.toList values))) :=
  rfl

/-- A pattern has one division into pieces, and formatting puts the values between them all at
once: as they are rendered, whatever braces they hold.  Values beyond the placeholders do not
count.  If no placeholder is cut in two, the parts of a pattern are formatted apart, each with
the values that fall to it. -/
theorem format_substitutes (pattern : String) (values : List Document) :
    (∃! pieces : List Char × List (List Char), Pieces pattern.toList pieces.1 pieces.2) ∧
    ∀ first others, Pieces pattern.toList first others →
      format.apply (.string pattern :: values) =
          .ok (.string (String.ofList (substituted first others values))) ∧
      format.apply (.string pattern :: values) =
          format.apply (.string pattern :: values.take others.length) ∧
      ∀ more : String, ¬ Straddles pattern.toList more.toList →
        ∃ left right,
          format.apply (.string pattern :: values.take others.length) = .ok (.string left) ∧
          format.apply (.string more :: values.drop others.length) = .ok (.string right) ∧
          format.apply (.string (pattern ++ more) :: values) = .ok (.string (left ++ right)) := by
  constructor
  · obtain ⟨first, others, pieces⟩ := exists_pieces pattern.toList
    refine ⟨(first, others), pieces, ?_⟩
    rintro ⟨other, more⟩ second
    obtain ⟨rfl, rfl⟩ := pieces.unique second
    rfl
  · intro first others pieces
    refine ⟨?_, ?_, ?_⟩
    · rw [apply_format, pieces.fill_eq]
    · have alone := pieces.fill_append (not_straddles_nil _) values
      rw [List.append_nil, fill, List.append_nil] at alone
      rw [apply_format, apply_format, alone]
    · intro more apart
      refine ⟨_, _, apply_format _ _, apply_format _ _, ?_⟩
      rw [apply_format, String.toList_append, pieces.fill_append apart, String.ofList_append]

/-- Braces stand beside the placeholders, and the first value is itself a placeholder. -/
theorem braces_format :
    Pieces "\x7b\x7b\x7d-\x7b\x7d\x7d".toList ['\x7b'] [['-'], ['\x7d']] ∧
      ¬ Straddles "\x7b\x7b\x7d-\x7b\x7d\x7d".toList "\x7b\x7d!".toList ∧
      format.apply [.string "\x7b\x7b\x7d-\x7b\x7d\x7d", .string "\x7b\x7d",
          .array [.ofNat 1], .null] =
        .ok (.string "\x7b\x7b\x7d-[1]\x7d") ∧
      format.apply [.string ("\x7b\x7b\x7d-\x7b\x7d\x7d" ++ "\x7b\x7d!"), .string "\x7b\x7d",
          .array [.ofNat 1], .null] =
        .ok (.string ("\x7b\x7b\x7d-[1]\x7d" ++ "null!")) := by
  have pieces : Pieces "\x7b\x7b\x7d-\x7b\x7d\x7d".toList ['\x7b'] [['-'], ['\x7d']] :=
    ⟨by decide, by decide⟩
  have apart : ¬ Straddles "\x7b\x7b\x7d-\x7b\x7d\x7d".toList "\x7b\x7d!".toList := by
    rintro ⟨opens, _⟩
    exact absurd opens (by decide)
  obtain ⟨formatted, _, joined⟩ := (format_substitutes "\x7b\x7b\x7d-\x7b\x7d\x7d"
    [.string "\x7b\x7d", .array [.ofNat 1], .null]).2 _ _ pieces
  obtain ⟨left, right, left_eq, right_eq, whole⟩ := joined "\x7b\x7d!" apart
  cases left_eq
  cases right_eq
  refine ⟨pieces, apart, ?_, ?_⟩
  · rw [formatted]
    decide +kernel
  · rw [whole]
    decide +kernel

end Intrinsic

end StatesLanguage
