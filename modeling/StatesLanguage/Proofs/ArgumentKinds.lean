import StatesLanguage.Call.Evaluation
import StatesLanguage.Proofs.ArgumentText
import StatesLanguage.Proofs.DocumentText
import StatesLanguage.Proofs.PathNotation

/-!
# Values, paths and quoted texts as arguments

Document text and texts in single quotes are self-contained and stay on one line, and so
does a path that is free of the characters that mean something to the splitter.
-/

namespace StatesLanguage

open Arguments (IsOrdinary Scan SelfContained delimiters passes_of_ordinary)
open Arguments.Scan (Passes)

namespace Text

theorem not_mem_intercalate {character : Char} {separator : List Char}
    (between : character ∉ separator) {texts : List (List Char)}
    (each : ∀ text ∈ texts, character ∉ text) : character ∉ separator.intercalate texts := by
  induction texts with
  | nil => exact List.not_mem_nil
  | cons text texts induction =>
      obtain ⟨first, others⟩ := List.forall_mem_cons.mp each
      cases texts with
      | nil =>
          rw [List.intercalate_singleton]
          exact first
      | cons second texts =>
          simp [first, between, induction others]

theorem lineFeed_not_mem_enclosed {opening closing : Char} {inside : List Char}
    (opens : '\n' ≠ opening) (absent : '\n' ∉ inside) (closes : '\n' ≠ closing) :
    '\n' ∉ opening :: inside ++ [closing] := by
  simp [opens, absent, closes]

end Text

namespace Document

theorem compactItems_eq (items : List Document) :
    compactItems items = [','].intercalate (items.map compactText) := by
  induction items with
  | nil => rfl
  | cons item items induction =>
      cases items with
      | nil => exact (List.append_nil _).symm
      | cons second items =>
          rw [compactItems_cons_cons, induction]
          simp only [List.map_cons, List.intercalate_cons_cons, List.append_assoc,
            List.singleton_append]

def memberText (member : String × Document) : List Char :=
  quoted member.1 ++ ':' :: compactText member.2

theorem compactMembers_eq (members : List (String × Document)) :
    compactMembers members = [','].intercalate (members.map memberText) := by
  induction members with
  | nil => rfl
  | cons member members induction =>
      cases members with
      | nil => exact (List.append_nil _).symm
      | cons second members =>
          rw [compactMembers_cons_cons, induction]
          simp only [memberText, List.map_cons, List.intercalate_cons_cons, List.append_assoc,
            List.singleton_append]

theorem Escapes.passes {character : Char} {text : List Char} (escapes : Escapes character text)
    (depth : Nat) : Passes (.quoted '\x22' depth) text (.quoted '\x22' depth) := by
  cases escapes with
  | letter stands => exact .cons rfl (.cons rfl (.nil _))
  | control control =>
      generalize character.toNat = code at control
      interval_cases code <;>
        exact .cons rfl (.cons rfl (.cons rfl (.cons rfl (.cons rfl (.cons rfl (.nil _))))))
  | plain unquoted unescaped visible =>
      apply Passes.cons _ (.nil _)
      rw [Scan.step, if_neg unescaped, if_neg unquoted]

theorem passes_quoted (text : String) (depth : Nat) :
    Passes (.plain depth) (quoted text) (.plain depth) := by
  have inside : Passes (.quoted '\x22' depth) (text.toList.flatMap escape) _ :=
    Passes.flatMap fun character _ => (escapes_escape character).passes depth
  exact .cons rfl (inside.append (.cons rfl (.nil _)))

theorem passes_integerText (value : Int) (depth : Nat) :
    Passes (.plain depth) (Number.integerText value) (.plain depth) := by
  apply passes_of_ordinary
  intro character member
  rcases Text.mem_integerText member with digit | rfl
  · exact Arguments.isOrdinary_of_digit digit
  · decide

/-- Text between brackets or braces that are one deeper. -/
theorem passes_enclosed {opening closing : Char} {depth : Nat} {inside : List Char}
    (opens : (Scan.plain depth).step opening = .inside (.plain (depth + 1)))
    (passes : Passes (.plain (depth + 1)) inside (.plain (depth + 1)))
    (closes : (Scan.plain (depth + 1)).step closing = .inside (.plain depth)) :
    Passes (.plain depth) (opening :: inside ++ [closing]) (.plain depth) :=
  .cons opens (passes.append (.cons closes (.nil _)))

theorem Writable.passes {nesting : Nat} {document : Document}
    (writable : Writable nesting document) (depth : Nat) :
    Passes (.plain depth) (compactText document) (.plain depth) := by
  induction writable generalizing depth with
  | null nesting =>
      apply passes_of_ordinary
      simp [compactText, nullText, IsOrdinary, delimiters]
  | bool nesting value =>
      apply passes_of_ordinary
      cases value with
      | false | true => simp [compactText, boolText, IsOrdinary, delimiters]
  | integer nesting fits => exact passes_integerText _ depth
  | string nesting value => exact passes_quoted value depth
  | @array nesting items each induction =>
      rw [compactText, compactItems_eq]
      apply passes_enclosed rfl _ rfl
      apply Passes.intercalate (.cons rfl (.nil _))
      intro text member
      obtain ⟨item, item_member, rfl⟩ := List.mem_map.mp member
      exact induction item item_member (depth + 1)
  | @object nesting members ascending each induction =>
      rw [compactText, compactMembers_eq]
      apply passes_enclosed rfl _ rfl
      apply Passes.intercalate (.cons rfl (.nil _))
      intro text member
      obtain ⟨⟨name, value⟩, member_member, rfl⟩ := List.mem_map.mp member
      apply Passes.append (passes_quoted name (depth + 1))
      exact .cons rfl (induction name value member_member (depth + 1))

theorem Escapes.lineFeed_not_mem {character : Char} {text : List Char}
    (escapes : Escapes character text) : '\n' ∉ text := by
  cases escapes with
  | @letter letter stands =>
      intro member
      simp only [List.mem_cons, List.not_mem_nil, or_false] at member
      rcases member with same | rfl
      · cases same
      · cases stands
  | control control =>
      generalize character.toNat = code at control
      interval_cases code <;> decide
  | plain unquoted unescaped visible =>
      intro member
      cases List.mem_singleton.mp member
      exact visible (by decide)

theorem lineFeed_not_mem_quoted (text : String) : '\n' ∉ quoted text := by
  intro member
  rw [quoted, List.cons_append, List.mem_cons, List.mem_append] at member
  rcases member with same | inside | same
  · cases same
  · obtain ⟨character, _, escaped⟩ := List.mem_flatMap.mp inside
    exact (escapes_escape character).lineFeed_not_mem escaped
  · cases List.mem_singleton.mp same

theorem Writable.lineFeed_not_mem {nesting : Nat} {document : Document}
    (writable : Writable nesting document) : '\n' ∉ compactText document := by
  induction writable with
  | null nesting => decide
  | bool nesting value =>
      cases value with
      | false | true => decide
  | integer nesting fits =>
      intro member
      rcases Text.mem_integerText member with digit | same
      · cases digit
      · cases same
  | string nesting value => exact lineFeed_not_mem_quoted value
  | @array nesting items each induction =>
      rw [compactText, compactItems_eq]
      apply Text.lineFeed_not_mem_enclosed (by decide) _ (by decide)
      apply Text.not_mem_intercalate (by decide)
      intro text member
      obtain ⟨item, item_member, rfl⟩ := List.mem_map.mp member
      exact induction item item_member
  | @object nesting members ascending each induction =>
      rw [compactText, compactMembers_eq]
      apply Text.lineFeed_not_mem_enclosed (by decide) _ (by decide)
      apply Text.not_mem_intercalate (by decide)
      intro text member
      obtain ⟨⟨name, value⟩, member_member, rfl⟩ := List.mem_map.mp member
      have value_absent := induction name value member_member
      simp [memberText, lineFeed_not_mem_quoted, value_absent]

theorem Writable.trimmed {nesting : Nat} {document : Document}
    (writable : Writable nesting document) : Text.Trimmed (compactText document) := by
  cases writable with
  | null nesting =>
      apply Text.trimmed_of_visible
      simp [compactText, nullText, Text.isBlank]
  | bool nesting value =>
      apply Text.trimmed_of_visible
      cases value with
      | false | true => simp [compactText, boolText, Text.isBlank]
  | integer nesting fits =>
      apply Text.trimmed_of_visible
      intro character member
      rcases Text.mem_integerText member with digit | rfl
      · obtain ⟨value, counts⟩ := Option.isSome_iff_exists.mp digit
        exact (Begins.digit counts).isBlank_eq_false
      · rfl
  | string nesting value => exact Text.trimmed_enclosed rfl rfl
  | array each => exact Text.trimmed_enclosed rfl rfl
  | object ascending each => exact Text.trimmed_enclosed rfl rfl

theorem Writable.selfContained {nesting : Nat} {document : Document}
    (writable : Writable nesting document) : SelfContained (compactText document) := by
  refine ⟨?_, writable.trimmed, writable.passes 0⟩
  obtain ⟨first, others, written, _⟩ := writable.exists_begins
  rw [written]
  exact List.cons_ne_nil first others

end Document

namespace Path

/-- A character that a path may hold inside a call. -/
def IsBare (character : Char) : Prop :=
  character ∉ ['\x27', '\x22', '\x7b', '\x7d', ',', '\n']

instance (character : Char) : Decidable (IsBare character) :=
  inferInstanceAs (Decidable (character ∉ _))

theorem IsBare.isOrdinary {character : Char} (bare : IsBare character)
    (unopened : character ≠ '[') (unclosed : character ≠ ']') : IsOrdinary character := by
  intro special
  simp only [IsBare, List.mem_cons, List.not_mem_nil, or_false, not_or] at bare
  simp [delimiters, bare, unopened, unclosed] at special

theorem WritesInside.passes {text : List Char} {step : Step} (writes : WritesInside text step)
    (depth : Nat) : Passes (.plain depth) text (.plain depth) := by
  apply passes_of_ordinary
  intro character member
  rcases writes.mem member with digit | sign
  · exact Arguments.isOrdinary_of_digit digit
  · simp only [List.mem_cons, List.not_mem_nil, or_false] at sign
    rcases sign with rfl | rfl | rfl <;> decide

theorem WritesBrackets.passes {text : List Char} {steps : List Step}
    (writes : WritesBrackets text steps) (depth : Nat) :
    Passes (.plain depth) text (.plain depth) := by
  induction writes with
  | none => exact .nil _
  | more first rest induction =>
      exact .cons rfl ((first.passes (depth + 1)).append (.cons rfl induction))

theorem WritesPiece.passes {text : List Char} {steps : List Step}
    (writes : WritesPiece text steps) (bare : ∀ character ∈ text, IsBare character)
    (depth : Nat) : Passes (.plain depth) text (.plain depth) := by
  cases writes with
  | @name name text steps proper rest =>
      obtain ⟨_, _, unopened, unclosed⟩ := proper
      refine Passes.append (passes_of_ordinary ?_ depth) (rest.passes depth)
      intro character member
      apply (bare character (List.mem_append_left text member)).isOrdinary
      · rintro rfl
        exact unopened member
      · rintro rfl
        exact unclosed member
  | brackets all => exact all.passes depth

theorem WritesPieces.passes {text : List Char} {steps : List Step}
    (writes : WritesPieces text steps) (bare : ∀ character ∈ text, IsBare character)
    (depth : Nat) : Passes (.plain depth) text (.plain depth) := by
  induction writes with
  | one piece => exact piece.passes bare depth
  | more piece rest induction =>
      obtain ⟨first, others⟩ := List.forall_mem_append.mp bare
      obtain ⟨_, others⟩ := List.forall_mem_cons.mp others
      exact (piece.passes first depth).append (.cons rfl (induction others))

theorem WritesSteps.passes {text : List Char} {steps : List Step}
    (writes : WritesSteps text steps) (bare : ∀ character ∈ text, IsBare character)
    (depth : Nat) : Passes (.plain depth) text (.plain depth) := by
  cases writes with
  | none => exact .nil _
  | pointed pieces =>
      obtain ⟨_, others⟩ := List.forall_mem_cons.mp bare
      exact .cons rfl (pieces.passes others depth)
  | bracketed pieces => exact pieces.passes bare depth

theorem passes_of_read {expression : String} {path : Path}
    (read : Path.read expression = .ok path)
    (bare : ∀ character ∈ expression.toList, IsBare character) (depth : Nat) :
    Passes (.plain depth) expression.toList (.plain depth) := by
  obtain ⟨rest, written, writes⟩ := readText_eq_ok_iff.mp read
  rw [written] at bare ⊢
  obtain ⟨_, others⟩ := List.forall_mem_append.mp bare
  refine Passes.append (passes_of_ordinary ?_ depth) (writes.passes others depth)
  cases path.root with
  | document | context => simp [Root.text, IsOrdinary, delimiters]

theorem isPath_of_read {expression : String} {path : Path}
    (read : Path.read expression = .ok path) : isPath expression = true := by
  obtain ⟨rest, written, writes⟩ := readText_eq_ok_iff.mp read
  rw [isPath, written]
  cases path.root with
  | document | context => rfl

end Path

namespace Call

/-- A character inside single quotes: the quote and the backslash are escaped. -/
def escape (character : Char) : List Char :=
  if character = '\x27' ∨ character = '\x5c' then ['\x5c', character] else [character]

def quoted (text : String) : List Char :=
  '\x27' :: text.toList.flatMap escape ++ ['\x27']

theorem unescape_escape (character : Char) (rest : List Char) :
    unescape (escape character ++ rest) = character :: unescape rest := by
  rw [escape]
  split
  · rename_i special
    rcases special with rfl | rfl
    · rfl
    · rfl
  · rename_i ordinary
    obtain ⟨_, unescaped⟩ := not_or.mp ordinary
    apply unescape.eq_4
    · exact fun _ same _ => unescaped same
    · exact fun _ same _ => unescaped same
    · exact fun _ _ same _ => unescaped same

theorem unescape_flatMap_escape (text : List Char) : unescape (text.flatMap escape) = text := by
  induction text with
  | nil => rfl
  | cons character text induction =>
      rw [List.flatMap_cons, unescape_escape, induction]

theorem quotedInside?_quoted (text : String) :
    quotedInside? (quoted text) = some (text.toList.flatMap escape) := by
  simp [quoted, quotedInside?]

theorem passes_escape (character : Char) (depth : Nat) :
    Passes (.quoted '\x27' depth) (escape character) (.quoted '\x27' depth) := by
  rw [escape]
  split
  · exact .cons rfl (.cons rfl (.nil _))
  · rename_i ordinary
    obtain ⟨unquoted, unescaped⟩ := not_or.mp ordinary
    apply Passes.cons _ (.nil _)
    rw [Scan.step, if_neg unescaped, if_neg unquoted]

theorem selfContained_quoted (text : String) : SelfContained (quoted text) where
  present := List.cons_ne_nil _ _
  trimmed := Text.trimmed_enclosed rfl rfl
  passes := by
    have inside : Passes (.quoted '\x27' 0) (text.toList.flatMap escape) _ :=
      Passes.flatMap fun character _ => passes_escape character 0
    exact .cons rfl (inside.append (.cons rfl (.nil _)))

theorem lineFeed_not_mem_quoted {text : String} (unbroken : '\n' ∉ text.toList) :
    '\n' ∉ quoted text := by
  apply Text.lineFeed_not_mem_enclosed (by decide) _ (by decide)
  intro member
  obtain ⟨character, character_member, escaped⟩ := List.mem_flatMap.mp member
  have same : '\n' = character := by
    rw [escape] at escaped
    split at escaped
    · rcases List.mem_cons.mp escaped with backslash | last
      · cases backslash
      · exact List.mem_singleton.mp last
    · exact List.mem_singleton.mp escaped
  rw [same] at unbroken
  exact unbroken character_member

end Call

end StatesLanguage
