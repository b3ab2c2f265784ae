import StatesLanguage.Glob

/-!
# What patterns mean

A pattern is read as the only tokens that write it, and it is refused only for a backslash
that has nothing to escape.  The row that a text leaves decides whether tokens denote it,
however the gaps may be filled.
-/

namespace StatesLanguage

namespace Glob

/-- The ways to write a token. -/
inductive Token.Writes : Token → List Char → Prop where
  | escaped (character : Char) : Writes (.literal character) ['\x5c', character]
  | plain {character : Char} (notEscape : character ≠ '\x5c') (notGap : character ≠ '*') :
      Writes (.literal character) [character]
  | gap : Writes .gap ['*']

/-- A pattern is what its tokens write, one after another. -/
inductive Writes : List Token → List Char → Prop where
  | nil : Writes [] []
  | cons {token : Token} {tokens : List Token} {first rest : List Char}
      (writes : token.Writes first) (others : Writes tokens rest) :
      Writes (token :: tokens) (first ++ rest)

/-- Behind what some tokens write there is a backslash and nothing else. -/
def Dangles (source : List Char) : Prop :=
  ∃ tokens before, Writes tokens before ∧ source = before ++ ['\x5c']

theorem Token.Writes.tokens?_append {token : Token} {first : List Char}
    (writes : token.Writes first) (rest : List Char) :
    tokens? (first ++ rest) = (tokens? rest).map (token :: ·) := by
  cases writes with
  | escaped character => rfl
  | plain notEscape notGap =>
      rw [List.singleton_append, tokens?]
      · exact fun same _ => notEscape same
      · exact fun _ _ same _ => notEscape same
      · exact notGap
  | gap => rfl

theorem Writes.tokens?_append {tokens : List Token} {before : List Char}
    (writes : Writes tokens before) (rest : List Char) :
    tokens? (before ++ rest) = (tokens? rest).map (tokens ++ ·) := by
  induction writes with
  | nil => exact Option.map_id'.symm
  | cons writes others induction =>
      rw [List.append_assoc, writes.tokens?_append, induction, Option.map_map]
      rfl

theorem writes_or_dangles_append {token : Token} {first rest : List Char}
    (writes : token.Writes first) (known : (∃ tokens, Writes tokens rest) ∨ Dangles rest) :
    (∃ tokens, Writes tokens (first ++ rest)) ∨ Dangles (first ++ rest) := by
  rcases known with ⟨tokens, others⟩ | ⟨tokens, before, others, rfl⟩
  · exact .inl ⟨token :: tokens, .cons writes others⟩
  · exact .inr ⟨token :: tokens, first ++ before, .cons writes others, by simp⟩

/-- Every text is written by tokens, up to a backslash at its end. -/
theorem writes_or_dangles (source : List Char) :
    (∃ tokens, Writes tokens source) ∨ Dangles source := by
  fun_induction tokens? source with
  | case1 => exact .inl ⟨[], .nil⟩
  | case2 => exact .inr ⟨[], [], .nil, rfl⟩
  | case3 character rest induction =>
      exact writes_or_dangles_append (.escaped character) induction
  | case4 rest induction => exact writes_or_dangles_append .gap induction
  | case5 character rest notLast notEscape notGap induction =>
      have stands : character ≠ '\x5c' := by
        intro same
        cases rest with
        | nil => exact notLast same rfl
        | cons next rest => exact notEscape next rest same rfl
      exact writes_or_dangles_append (.plain stands notGap) induction

theorem tokens?_eq_some_iff {source : List Char} {tokens : List Token} :
    tokens? source = some tokens ↔ Writes tokens source := by
  have read : ∀ {tokens}, Writes tokens source → tokens? source = some tokens := by
    intro tokens writes
    have whole := writes.tokens?_append []
    simpa [tokens?] using whole
  constructor
  · intro found
    rcases writes_or_dangles source with ⟨others, writes⟩ | ⟨others, before, writes, rfl⟩
    · rw [read writes] at found
      cases found
      exact writes
    · rw [writes.tokens?_append] at found
      cases found
  · exact read

theorem tokens?_eq_none_iff {source : List Char} :
    tokens? source = none ↔ Dangles source := by
  constructor
  · intro refused
    rcases writes_or_dangles source with ⟨tokens, writes⟩ | dangles
    · rw [tokens?_eq_some_iff.mpr writes] at refused
      cases refused
    · exact dangles
  · rintro ⟨tokens, before, writes, rfl⟩
    rw [writes.tokens?_append]
    rfl

/-- Behind its first entry, the row of some tokens is the row of the others. -/
theorem row_cons (token : Token) (tokens : List Token) (text : List Char) :
    row (token :: tokens) text =
      tokensAccept (token :: tokens) text :: row tokens text := by
  induction text with
  | nil => rfl
  | cons character text induction =>
      rw [tokensAccept, row, row, induction]
      cases token <;> rfl

theorem tokensAccept_nil_cons (character : Char) (text : List Char) :
    tokensAccept [] (character :: text) = false := by
  rw [tokensAccept, row]
  cases row [] text <;> rfl

theorem tokensAccept_literal_cons (expected character : Char) (tokens : List Token)
    (text : List Char) :
    tokensAccept (.literal expected :: tokens) (character :: text) =
      (expected = character && tokensAccept tokens text) := by
  rw [tokensAccept, row, row_cons]
  rfl

theorem tokensAccept_gap_cons (character : Char) (tokens : List Token) (text : List Char) :
    tokensAccept (.gap :: tokens) (character :: text) =
      (tokensAccept (.gap :: tokens) text || tokensAccept tokens text) := by
  rw [tokensAccept, row, row_cons]
  rfl

theorem denotes_nil_iff {text : List Char} : Denotes [] text ↔ text = [] := by
  constructor
  · rintro ⟨⟩
    rfl
  · rintro rfl
    exact .nil

theorem denotes_gap_iff {tokens : List Token} {text : List Char} :
    Denotes (.gap :: tokens) text ↔
      ∃ filling rest, filling ≠ [] ∧ text = filling ++ rest ∧ Denotes tokens rest := by
  constructor
  · intro denotes
    cases denotes with
    | gap nonempty rest => exact ⟨_, _, nonempty, rfl, rest⟩
  · rintro ⟨filling, rest, nonempty, rfl, denotes⟩
    exact .gap nonempty denotes

theorem not_denotes_cons_nil (token : Token) (tokens : List Token) :
    ¬ Denotes (token :: tokens) [] := by
  cases token with
  | literal character => nofun
  | gap =>
      intro denotes
      obtain ⟨filling, rest, nonempty, empty, _⟩ := denotes_gap_iff.mp denotes
      exact nonempty (List.append_eq_nil_iff.mp empty.symm).1

theorem denotes_literal_iff {expected character : Char} {tokens : List Token}
    {text : List Char} :
    Denotes (.literal expected :: tokens) (character :: text) ↔
      expected = character ∧ Denotes tokens text := by
  constructor
  · rintro ⟨⟩
    exact ⟨rfl, ‹_›⟩
  · rintro ⟨rfl, denotes⟩
    exact .literal expected denotes

/-- A gap takes the first character and then goes on or ends. -/
theorem denotes_gap_cons_iff {character : Char} {tokens : List Token} {text : List Char} :
    Denotes (.gap :: tokens) (character :: text) ↔
      Denotes (.gap :: tokens) text ∨ Denotes tokens text := by
  constructor
  · intro denotes
    obtain ⟨filling, rest, nonempty, same, others⟩ := denotes_gap_iff.mp denotes
    cases filling with
    | nil => exact absurd rfl nonempty
    | cons first filling =>
        obtain ⟨rfl, rfl⟩ := List.cons.inj same
        by_cases ends : filling = []
        · subst ends
          exact .inr others
        · exact .inl (.gap ends others)
  · rintro (goesOn | ends)
    · obtain ⟨filling, rest, _, rfl, denotes⟩ := denotes_gap_iff.mp goesOn
      exact .gap (List.cons_ne_nil character filling) denotes
    · exact .gap (List.cons_ne_nil character []) ends

theorem tokensAccept_iff_denotes {tokens : List Token} {text : List Char} :
    tokensAccept tokens text = true ↔ Denotes tokens text := by
  induction text generalizing tokens with
  | nil =>
      cases tokens with
      | nil => exact iff_of_true rfl .nil
      | cons token tokens => exact iff_of_false nofun (not_denotes_cons_nil token tokens)
  | cons character text induction =>
      cases tokens with
      | nil => simp [tokensAccept_nil_cons, denotes_nil_iff]
      | cons token tokens =>
          cases token with
          | literal expected =>
              simp [tokensAccept_literal_cons, denotes_literal_iff, induction]
          | gap => simp [tokensAccept_gap_cons, denotes_gap_cons_iff, induction]

theorem writes_escaped (text : List Char) : Writes (text.map .literal) (escaped text) := by
  induction text with
  | nil => exact .nil
  | cons character text induction =>
      rw [escaped]
      split
      · exact .cons (.escaped character) induction
      · rename_i bare
        obtain ⟨notGap, notEscape⟩ := not_or.mp bare
        exact .cons (.plain notEscape notGap) induction

theorem denotes_literals_iff {expected text : List Char} :
    Denotes (expected.map .literal) text ↔ text = expected := by
  constructor
  · intro denotes
    induction expected generalizing text with
    | nil => exact denotes_nil_iff.mp denotes
    | cons first expected induction =>
        cases denotes with
        | literal _ rest => rw [induction rest]
  · rintro rfl
    induction text with
    | nil => exact .nil
    | cons first text induction => exact .literal first induction

/-- A source is refused exactly if it ends in a bare backslash, and is read otherwise as the
tokens that write it.  A pattern accepts exactly the texts that its tokens denote, and an
escaped text is the pattern of that text alone. -/
theorem read?_accepts_iff (source : String) :
    (read? source = none ↔ Dangles source.toList) ∧
    (∀ glob, read? source = some glob ↔
      glob.source = source ∧ Writes glob.tokens source.toList) ∧
    (∀ (glob : Glob) (text : String),
      glob.accepts text = true ↔ Denotes glob.tokens text.toList) ∧
    ∃ glob, read? (String.ofList (escaped source.toList)) = some glob ∧
      ∀ text, glob.accepts text = true ↔ text = source := by
  refine ⟨?_, ?_, fun glob text => tokensAccept_iff_denotes, ?_⟩
  · rw [read?, Option.map_eq_none_iff, tokens?_eq_none_iff]
  · intro glob
    rw [read?, Option.map_eq_some_iff, ← tokens?_eq_some_iff]
    constructor
    · rintro ⟨tokens, found, rfl⟩
      exact ⟨rfl, found⟩
    · rintro ⟨rfl, found⟩
      exact ⟨glob.tokens, found, rfl⟩
  · refine ⟨⟨String.ofList (escaped source.toList), source.toList.map .literal⟩, ?_, ?_⟩
    · rw [read?, String.toList_ofList, tokens?_eq_some_iff.mpr (writes_escaped _)]
      rfl
    · intro text
      rw [accepts, tokensAccept_iff_denotes, denotes_literals_iff, String.toList_inj]

end Glob

end StatesLanguage
