import Mathlib.Data.List.Induction
import StatesLanguage.Path.Access
import StatesLanguage.Proofs.Assignment
import StatesLanguage.Proofs.Outcome

/-!
# Composition of paths

What follows a path that reads well is read as if it stood after a root of its own,
whether it goes on with brackets or with a new piece; this is `Path.readSteps_append`.
With `Path.follow_append` it makes longer expressions compositions of shorter ones.
-/

namespace StatesLanguage

open Outcome

namespace Path

theorem cut_of_not_mem {separator : Char} {text : List Char} (absent : separator ∉ text) :
    cut separator text = (text, none) := by
  induction text with
  | nil => rfl
  | cons character rest induction =>
      obtain ⟨differ, absent⟩ := not_or.mp (mt List.mem_cons.mpr absent)
      rw [cut, if_neg (Ne.symm differ), induction absent]

theorem cut_append {separator : Char} {before : List Char} (absent : separator ∉ before)
    (after : List Char) :
    cut separator (before ++ separator :: after) = (before, some after) := by
  induction before with
  | nil => rw [List.nil_append, cut, if_pos rfl]
  | cons character rest induction =>
      obtain ⟨differ, absent⟩ := not_or.mp (mt List.mem_cons.mpr absent)
      rw [List.cons_append, cut, if_neg (Ne.symm differ), induction absent]

theorem pieces_of_not_mem {separator : Char} {text : List Char} (absent : separator ∉ text) :
    pieces separator text = [text] := by
  induction text with
  | nil => rfl
  | cons character rest induction =>
      obtain ⟨differ, absent⟩ := not_or.mp (mt List.mem_cons.mpr absent)
      rw [pieces, if_neg (Ne.symm differ), induction absent]

theorem exists_pieces (separator : Char) (text : List Char) :
    ∃ first others, pieces separator text = first :: others := by
  cases text with
  | nil => exact ⟨[], [], rfl⟩
  | cons character rest =>
      rw [pieces]
      split
      · exact ⟨_, _, rfl⟩
      · split
        · exact ⟨_, _, rfl⟩
        · exact ⟨_, _, rfl⟩

theorem pieces_cons {separator character : Char} (other : character ≠ separator)
    {text first : List Char} {others : List (List Char)}
    (divided : pieces separator text = first :: others) :
    pieces separator (character :: text) = (character :: first) :: others := by
  rw [pieces, if_neg other, divided]

/-- A separator between two texts keeps their pieces apart. -/
theorem pieces_append_separator (separator : Char) (before after : List Char) :
    pieces separator (before ++ separator :: after) =
      pieces separator before ++ pieces separator after := by
  induction before with
  | nil => simp [pieces]
  | cons character rest induction =>
      obtain ⟨first, others, divided⟩ := exists_pieces separator rest
      by_cases same : character = separator
      · rw [List.cons_append, pieces, if_pos same, pieces, if_pos same, induction,
          List.cons_append]
      · rw [divided, List.cons_append] at induction
        rw [List.cons_append, pieces_cons same divided, pieces_cons same induction,
          List.cons_append]

theorem pieces_append_of_not_mem {separator : Char} {before : List Char}
    (absent : separator ∉ before) (after : List Char) :
    pieces separator (before ++ separator :: after) = before :: pieces separator after := by
  rw [pieces_append_separator, pieces_of_not_mem absent, List.singleton_append]

/-- Without a separator between them, the last piece of one text and the first piece of the
other are one piece. -/
theorem pieces_append {separator : Char} {after first : List Char} {others : List (List Char)}
    (divided : pieces separator after = first :: others) (before : List Char) :
    ∃ early last, pieces separator before = early ++ [last] ∧
      pieces separator (before ++ after) = early ++ (last ++ first) :: others := by
  induction before with
  | nil => exact ⟨[], [], rfl, divided⟩
  | cons character rest induction =>
      obtain ⟨early, last, own, joined⟩ := induction
      by_cases same : character = separator
      · refine ⟨[] :: early, last, ?_, ?_⟩
        · rw [pieces, if_pos same, own, List.cons_append]
        · rw [List.cons_append, pieces, if_pos same, joined, List.cons_append]
      · cases early with
        | nil => exact ⟨[], character :: last, pieces_cons same own, pieces_cons same joined⟩
        | cons head early =>
            exact ⟨(character :: head) :: early, last, pieces_cons same own,
              pieces_cons same joined⟩

theorem readBrackets_next {inside : List Char} {step : Step}
    (found : bracketStep? inside = some step) (more : List Char) :
    readBrackets inside (']' :: '[' :: more) = (readBrackets [] more).map (step :: ·) := by
  rw [readBrackets, if_pos rfl, found]
  dsimp only
  rw [if_pos rfl, bind_ok]

theorem readBrackets_append {seen text : List Char} {steps : List Step}
    (read : readBrackets seen text = .ok steps) (more : List Char) :
    readBrackets seen (text ++ '[' :: more) = (readBrackets [] more).map (steps ++ ·) := by
  fun_induction readBrackets seen text generalizing steps with
  | case1 | case2 | case5 => cases read
  | case3 seen step found =>
      cases read
      exact readBrackets_next found more
  | case4 seen step found rest induction =>
      obtain ⟨others, others_read, same⟩ := bind_eq_ok.mp read
      cases same
      rw [List.cons_append, List.cons_append, readBrackets_next found,
        induction others_read, map_map]
      rfl
  | case6 seen character rest other induction =>
      rw [List.cons_append, readBrackets, if_neg other]
      exact induction read

theorem nameSteps_of_ne_nil {name : List Char} (present : name ≠ []) :
    nameSteps name = [.key (String.ofList name)] := by
  rw [nameSteps, List.isEmpty_eq_false_iff.mpr present]
  rfl

theorem readPiece_name {name : List Char} (present : name ≠ []) (unopened : '[' ∉ name)
    (unclosed : ']' ∉ name) : readPiece name = .ok (nameSteps name) := by
  rw [readPiece, cut_of_not_mem unopened]
  simp [present, unclosed]

theorem readPiece_brackets {name : List Char} (unopened : '[' ∉ name)
    (unclosed : ']' ∉ name) (brackets : List Char) :
    readPiece (name ++ '[' :: brackets) =
      (readBrackets [] brackets).map (nameSteps name ++ ·) := by
  rw [readPiece, cut_append unopened]
  simp only [List.contains_iff_mem, unclosed, if_false]
  exact bind_ok

/-- A piece that is read is a name, or brackets after a name that may be empty. -/
theorem readPiece_eq_ok {piece : List Char} {steps : List Step}
    (read : readPiece piece = .ok steps) :
    (piece ≠ [] ∧ '[' ∉ piece ∧ ']' ∉ piece ∧ steps = nameSteps piece) ∨
      ∃ name brackets others, piece = name ++ '[' :: brackets ∧ '[' ∉ name ∧ ']' ∉ name ∧
        readBrackets [] brackets = .ok others ∧ steps = nameSteps name ++ others := by
  rw [readPiece] at read
  by_cases opened : '[' ∈ piece
  · right
    obtain ⟨name, brackets, rfl, unopened⟩ := List.eq_append_cons_of_mem opened
    rw [cut_append unopened] at read
    dsimp only at read
    split at read
    · cases read
    · rename_i unclosed
      obtain ⟨others, others_read, same⟩ := bind_eq_ok.mp read
      cases same
      exact ⟨name, brackets, others, rfl, unopened, by simpa using unclosed, others_read, rfl⟩
  · left
    rw [cut_of_not_mem opened] at read
    dsimp only at read
    split at read
    · cases read
    · rename_i present
      split at read
      · cases read
      · rename_i unclosed
        cases read
        exact ⟨by simpa using present, opened, by simpa using unclosed, rfl⟩

theorem readPiece_append {piece : List Char} {steps : List Step}
    (read : readPiece piece = .ok steps) (more : List Char) :
    readPiece (piece ++ '[' :: more) = (readPiece ('[' :: more)).map (steps ++ ·) := by
  have bare : readPiece ('[' :: more) = (readBrackets [] more).map ([] ++ ·) :=
    readPiece_brackets List.not_mem_nil List.not_mem_nil more
  rw [bare, map_map]
  rcases readPiece_eq_ok read with
    ⟨_, unopened, unclosed, rfl⟩ | ⟨name, brackets, others, rfl, unopened, unclosed, inner, rfl⟩
  · rw [readPiece_brackets unopened unclosed]
    rfl
  · rw [List.append_assoc, List.cons_append, readPiece_brackets unopened unclosed,
      readBrackets_append inner, map_map]
    simp only [List.append_assoc, List.nil_append]

theorem readPieces_append {first second : List (List Char)} {steps : List Step}
    (read : readPieces first = .ok steps) :
    readPieces (first ++ second) = (readPieces second).map (steps ++ ·) := by
  induction first generalizing steps with
  | nil =>
      cases read
      exact (map_eq_self fun _ => rfl).symm
  | cons piece rest induction =>
      obtain ⟨own, own_read, read⟩ := bind_eq_ok.mp read
      obtain ⟨others, others_read, same⟩ := bind_eq_ok.mp read
      cases same
      rw [List.cons_append, readPieces, own_read, induction others_read]
      have later : ((readPieces second).map (others ++ ·) >>= fun more =>
          .ok (own ++ more)) = (readPieces second).map (own ++ others ++ ·) := by
        rw [bind_ok, map_map]
        simp only [List.append_assoc]
      exact later

theorem readPieces_concat_eq_ok {early : List (List Char)} {last : List Char}
    {steps : List Step} (read : readPieces (early ++ [last]) = .ok steps) :
    ∃ before own, readPieces early = .ok before ∧ readPiece last = .ok own ∧
      steps = before ++ own := by
  induction early generalizing steps with
  | nil =>
      obtain ⟨own, own_read, read⟩ := bind_eq_ok.mp read
      obtain ⟨others, others_read, same⟩ := bind_eq_ok.mp read
      cases others_read
      cases same
      exact ⟨[], own, rfl, own_read, List.append_nil own⟩
  | cons piece rest induction =>
      obtain ⟨head, head_read, read⟩ := bind_eq_ok.mp read
      obtain ⟨others, others_read, same⟩ := bind_eq_ok.mp read
      cases same
      obtain ⟨before, own, before_read, own_read, rfl⟩ := induction others_read
      refine ⟨head ++ before, own, ?_, own_read, (List.append_assoc _ _ _).symm⟩
      rw [readPieces, head_read, before_read]
      rfl

/-- A text that may follow a path: nothing, or what begins with a point or a bracket. -/
inductive IsContinuation : List Char → Prop where
  | none : IsContinuation []
  | point (rest : List Char) : IsContinuation ('.' :: rest)
  | bracket (rest : List Char) : IsContinuation ('[' :: rest)

theorem readPieces_append_continuation {text more : List Char} {steps : List Step}
    (read : readPieces (pieces '.' text) = .ok steps) (continuation : IsContinuation more) :
    readPieces (pieces '.' (text ++ more)) = (readSteps more).map (steps ++ ·) := by
  cases continuation with
  | none =>
      rw [List.append_nil, read, readSteps]
      exact congrArg Except.ok (List.append_nil steps).symm
  | point rest =>
      rw [pieces_append_separator, readPieces_append read, readSteps]
  | bracket rest =>
      obtain ⟨first, others, divided⟩ := exists_pieces '.' rest
      have other : '[' ≠ '.' := by decide
      have bracketed := pieces_cons other divided
      obtain ⟨early, last, own, joined⟩ := pieces_append bracketed text
      rw [own] at read
      obtain ⟨before, after, before_read, last_read, rfl⟩ := readPieces_concat_eq_ok read
      rw [joined, readPieces_append before_read, readSteps, bracketed, readPieces, readPieces,
        readPiece_append last_read]
      cases readPiece ('[' :: first) with
      | error fault => rfl
      | ok inner =>
          cases readPieces others with
          | error fault => rfl
          | ok steps => simp [bind, Except.bind, Except.map]

theorem isContinuation_of_readSteps {text : List Char} {steps : List Step}
    (read : readSteps text = .ok steps) : IsContinuation text := by
  rw [readSteps.eq_def] at read
  split at read
  · exact .none
  · exact .point _
  · exact .bracket _
  · cases read

/-- What follows steps that were read is read as if it stood after a root, faults
included. -/
theorem readSteps_append {text more : List Char} {steps : List Step}
    (read : readSteps text = .ok steps) (continuation : IsContinuation more) :
    readSteps (text ++ more) = (readSteps more).map (steps ++ ·) := by
  cases isContinuation_of_readSteps read with
  | none =>
      cases read
      exact (map_eq_self fun _ => rfl).symm
  | point rest =>
      rw [readSteps] at read
      rw [List.cons_append, readSteps]
      exact readPieces_append_continuation read continuation
  | bracket rest =>
      rw [readSteps] at read
      rw [List.cons_append, readSteps, ← List.cons_append]
      exact readPieces_append_continuation read continuation

theorem readText_of_isContinuation {rest : List Char} (continuation : IsContinuation rest)
    (root : Root) : readText (root.text ++ rest) = (readSteps rest).map (Path.mk root) := by
  cases root with
  | context => rfl
  | document =>
      cases continuation with
      | none => rfl
      | point rest => rfl
      | bracket rest => rfl

/-- A path expression that is read is a root and steps. -/
theorem readText_eq_ok {text : List Char} {path : Path} :
    readText text = .ok path ↔
      ∃ rest, text = path.root.text ++ rest ∧ readSteps rest = .ok path.steps := by
  constructor
  · intro read
    rw [readText.eq_def] at read
    split at read
    · rename_i rest
      obtain ⟨steps, steps_read, rfl⟩ := map_eq_ok.mp read
      exact ⟨rest, rfl, steps_read⟩
    · rename_i rest _
      obtain ⟨steps, steps_read, rfl⟩ := map_eq_ok.mp read
      exact ⟨rest, rfl, steps_read⟩
    · cases read
  · rintro ⟨rest, rfl, read⟩
    rw [readText_of_isContinuation (isContinuation_of_readSteps read), read]
    rfl

theorem read_dollar {more : String} (continuation : IsContinuation more.toList) :
    Path.read ("$" ++ more) = (readSteps more.toList).map (Path.mk .document) := by
  rw [Path.read, String.toList_append]
  exact readText_of_isContinuation continuation .document

theorem IsContinuation.append {text more : List Char} (first : IsContinuation text)
    (second : IsContinuation more) : IsContinuation (text ++ more) := by
  cases first with
  | none => exact second
  | point rest => exact .point _
  | bracket rest => exact .bracket _

/-- A path expression may be continued, and what follows it is read as after a root. -/
theorem read_append {expression more : String} {path : Path}
    (read : Path.read expression = .ok path) (continuation : IsContinuation more.toList) :
    Path.read (expression ++ more) =
      (readSteps more.toList).map fun steps => ⟨path.root, path.steps ++ steps⟩ := by
  obtain ⟨text, written, steps_read⟩ := readText_eq_ok.mp read
  have joined := (isContinuation_of_readSteps steps_read).append continuation
  rw [Path.read, String.toList_append, written, List.append_assoc,
    readText_of_isContinuation joined, readSteps_append steps_read continuation, map_map]

end Path

namespace Document

theorem resolve_eq_ok_of_read {expression : String} {path : Path}
    (read : Path.read expression = .ok path) {document context value : Document} :
    document.resolve expression context = .ok value ↔
      Path.follow path.steps (path.root.denote document context) = .ok value := by
  rw [resolve_eq_ok, read]
  constructor
  · rintro ⟨_, same, found⟩
    cases same
    exact found
  · exact fun found => ⟨path, rfl, found⟩

theorem resolve_ne_ok_of_read {expression : String} {fault : Path.Fault}
    (failed : Path.read expression = .error fault) {document context value : Document} :
    document.resolve expression context ≠ .ok value := by
  intro found
  obtain ⟨_, same, _⟩ := resolve_eq_ok.mp found
  rw [failed] at same
  cases same

/-- A path expression may be continued exactly if the continuation can stand after a dollar
sign, and the longer expression selects what the continuation selects from what the shorter
one selects. -/
theorem resolve_append {expression more : String} {path : Path}
    (read : Path.read expression = .ok path)
    (continuation : Path.IsContinuation more.toList) :
    ((∃ longer, Path.read (expression ++ more) = .ok longer) ↔
      ∃ rest, Path.read ("$" ++ more) = .ok rest) ∧
    ∀ document context value : Document,
      document.resolve (expression ++ more) context = .ok value ↔
        ∃ middle, document.resolve expression context = .ok middle ∧
          middle.resolve ("$" ++ more) context = .ok value := by
  have longer := Path.read_append read continuation
  have rooted := Path.read_dollar continuation
  cases steps_read : Path.readSteps more.toList with
  | error fault =>
      rw [steps_read] at longer rooted
      refine ⟨?_, ?_⟩
      · rw [longer, rooted]
        exact ⟨nofun, nofun⟩
      · intro document context value
        constructor
        · exact fun found => absurd found (resolve_ne_ok_of_read longer)
        · rintro ⟨middle, _, found⟩
          exact absurd found (resolve_ne_ok_of_read rooted)
  | ok steps =>
      rw [steps_read] at longer rooted
      refine ⟨⟨fun _ => ⟨_, rooted⟩, fun _ => ⟨_, longer⟩⟩, ?_⟩
      intro document context value
      simp only [resolve_eq_ok_of_read longer, resolve_eq_ok_of_read read,
        resolve_eq_ok_of_read rooted, Path.follow_append]
      exact bind_eq_ok

def shelves : Document :=
  .object [("shelves", .array [.object [("id", .ofNat 7)], .object [("id", .ofNat 8)]])]

theorem shelves_resolve_append :
    Path.read "$.shelves[1:]" = .ok ⟨.document, [.key "shelves", .slice (some 1) none]⟩ ∧
      (∃ longer, Path.read ("$.shelves[1:]" ++ "[0].id") = .ok longer) ∧
      shelves.resolve "$.shelves[1:]" .null = .ok (.array [.object [("id", .ofNat 8)]]) ∧
      shelves.resolve ("$.shelves[1:]" ++ "[0].id") .null = .ok (.ofNat 8) := by
  have parsed : Path.read "$.shelves[1:]" =
      .ok ⟨.document, [.key "shelves", .slice (some 1) none]⟩ := by
    decide +kernel
  have rooted : Path.read ("$" ++ "[0].id") = .ok ⟨.document, [.index 0, .key "id"]⟩ := by
    decide +kernel
  have sliced : shelves.resolve "$.shelves[1:]" .null =
      .ok (.array [.object [("id", .ofNat 8)]]) := by
    decide +kernel
  have selected : (Document.array [.object [("id", .ofNat 8)]]).resolve ("$" ++ "[0].id")
      .null = .ok (.ofNat 8) := by
    decide +kernel
  have continuation : Path.IsContinuation "[0].id".toList := .bracket _
  obtain ⟨longer, resolved⟩ := resolve_append parsed continuation
  exact ⟨parsed, longer.mpr ⟨_, rooted⟩, sliced,
    (resolved shelves .null (.ofNat 8)).mpr ⟨_, sliced, selected⟩⟩

end Document

end StatesLanguage
