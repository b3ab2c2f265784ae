import StatesLanguage.Proofs.Numeral
import StatesLanguage.Proofs.PathComposition

/-!
# The notation of paths

The grammar of path expressions, one relation for each of its notions: what is inside a
bracket, brackets in a row, a piece, pieces between points, and what follows a root.  The
reader splits at points and brackets; `Path.read_eq_ok_iff_writes` says that it accepts the
grammar and nothing else, and that the canonical text of a path is in it.
-/

namespace StatesLanguage

namespace Path

open Outcome

/-- A bound of a slice may be left out. -/
inductive WritesBound : List Char → Option Int → Prop where
  | absent : WritesBound [] none
  | present {text : List Char} {bound : Int} (integer : WritesInteger text bound) :
      WritesBound text (some bound)

/-- What stands inside a bracket: a position, or two bounds and a colon. -/
inductive WritesInside : List Char → Step → Prop where
  | index {text : List Char} {position : Int} (integer : WritesInteger text position) :
      WritesInside text (.index position)
  | slice {first second : List Char} {start stop : Option Int}
      (lower : WritesBound first start) (upper : WritesBound second stop) :
      WritesInside (first ++ ':' :: second) (.slice start stop)

/-- Any number of brackets in a row. -/
inductive WritesBrackets : List Char → List Step → Prop where
  | none : WritesBrackets [] []
  | more {inside text : List Char} {step : Step} {steps : List Step}
      (first : WritesInside inside step) (rest : WritesBrackets text steps) :
      WritesBrackets ('[' :: inside ++ ']' :: text) (step :: steps)

/-- A name that may stand in a path. -/
def IsName (name : List Char) : Prop :=
  name ≠ [] ∧ '.' ∉ name ∧ '[' ∉ name ∧ ']' ∉ name

/-- A piece is a name followed by brackets, or at least one bracket. -/
inductive WritesPiece : List Char → List Step → Prop where
  | name {name text : List Char} {steps : List Step} (proper : IsName name)
      (rest : WritesBrackets text steps) :
      WritesPiece (name ++ text) (.key (String.ofList name) :: steps)
  | brackets {text : List Char} {step : Step} {steps : List Step}
      (all : WritesBrackets text (step :: steps)) : WritesPiece text (step :: steps)

/-- One or more pieces with points between them. -/
inductive WritesPieces : List Char → List Step → Prop where
  | one {text : List Char} {steps : List Step} (piece : WritesPiece text steps) :
      WritesPieces text steps
  | more {first text : List Char} {steps others : List Step}
      (piece : WritesPiece first steps) (rest : WritesPieces text others) :
      WritesPieces (first ++ '.' :: text) (steps ++ others)

/-- What follows a root: nothing, a point and pieces, or pieces that begin with a
bracket. -/
inductive WritesSteps : List Char → List Step → Prop where
  | none : WritesSteps [] []
  | pointed {text : List Char} {steps : List Step} (pieces : WritesPieces text steps) :
      WritesSteps ('.' :: text) steps
  | bracketed {text : List Char} {steps : List Step}
      (pieces : WritesPieces ('[' :: text) steps) : WritesSteps ('[' :: text) steps

/-- The text is a root followed by the steps of the path. -/
def Writes (text : List Char) (path : Path) : Prop :=
  ∃ rest, text = path.root.text ++ rest ∧ WritesSteps rest path.steps

theorem WritesInteger.mem {text : List Char} {value : Int} (writes : WritesInteger text value)
    {character : Char} (member : character ∈ text) :
    (Text.digit? character).isSome ∨ character ∈ ['+', '-'] := by
  cases writes with
  | unsigned numeral fits => exact .inl (numeral.isSome_of_mem member)
  | positive numeral fits =>
      rcases List.mem_cons.mp member with rfl | later
      · exact .inr (by decide)
      · exact .inl (numeral.isSome_of_mem later)
  | negative numeral fits =>
      rcases List.mem_cons.mp member with rfl | later
      · exact .inr (by decide)
      · exact .inl (numeral.isSome_of_mem later)

theorem WritesBound.mem {text : List Char} {bound : Option Int}
    (writes : WritesBound text bound) {character : Char} (member : character ∈ text) :
    (Text.digit? character).isSome ∨ character ∈ ['+', '-'] := by
  cases writes with
  | absent => cases member
  | present integer => exact integer.mem member

/-- The inside of a bracket consists of digits, signs and colons. -/
theorem WritesInside.mem {text : List Char} {step : Step} (writes : WritesInside text step)
    {character : Char} (member : character ∈ text) :
    (Text.digit? character).isSome ∨ character ∈ ['+', '-', ':'] := by
  have widen : (Text.digit? character).isSome ∨ character ∈ ['+', '-'] →
      (Text.digit? character).isSome ∨ character ∈ ['+', '-', ':'] :=
    Or.imp_right fun sign => List.mem_append_left [':'] sign
  cases writes with
  | index integer => exact widen (integer.mem member)
  | slice lower upper =>
      rcases List.mem_append.mp member with before | after
      · exact widen (lower.mem before)
      · rcases List.mem_cons.mp after with rfl | later
        · exact .inr (by decide)
        · exact widen (upper.mem later)

theorem WritesInside.not_mem {text : List Char} {step : Step}
    (writes : WritesInside text step) {character : Char}
    (other : Text.digit? character = none) (apart : character ∉ ['+', '-', ':']) :
    character ∉ text := by
  intro member
  rcases writes.mem member with counts | sign
  · rw [other] at counts
    cases counts
  · exact apart sign

theorem WritesBound.colon_not_mem {text : List Char} {bound : Option Int}
    (writes : WritesBound text bound) : ':' ∉ text := by
  intro member
  rcases writes.mem member with counts | sign
  · cases counts
  · exact absurd sign (by decide)

theorem WritesBrackets.point_not_mem {text : List Char} {steps : List Step}
    (writes : WritesBrackets text steps) : '.' ∉ text := by
  induction writes with
  | none => exact List.not_mem_nil
  | more first rest induction =>
      have within : '.' ∉ _ := first.not_mem rfl (by decide)
      simp [within, induction]

theorem WritesPiece.point_not_mem {text : List Char} {steps : List Step}
    (writes : WritesPiece text steps) : '.' ∉ text := by
  cases writes with
  | name proper rest => simp [proper.2.1, rest.point_not_mem]
  | brackets all => exact all.point_not_mem

theorem bound?_eq_some_iff {text : List Char} {bound : Option Int} :
    bound? text = some bound ↔ WritesBound text bound := by
  cases text with
  | nil =>
      constructor
      · intro read
        cases read
        exact .absent
      · intro writes
        cases writes with
        | absent => rfl
        | present integer =>
            have read := integer?_eq_some_iff.mpr integer
            cases read
  | cons character rest =>
      rw [bound?, Option.map_eq_some_iff]
      · constructor
        · rintro ⟨value, read, rfl⟩
          exact .present (integer?_eq_some_iff.mp read)
        · intro writes
          cases writes with
          | present integer => exact ⟨_, integer?_eq_some_iff.mpr integer, rfl⟩
      · nofun

theorem bracketStep?_eq_some_iff {inside : List Char} {step : Step} :
    bracketStep? inside = some step ↔ WritesInside inside step := by
  rw [bracketStep?]
  constructor
  · intro read
    by_cases colon : ':' ∈ inside
    · obtain ⟨first, second, rfl, absent⟩ := List.eq_append_cons_of_mem colon
      rw [cut_append absent] at read
      obtain ⟨start, lower, read⟩ := Option.bind_eq_some_iff.mp read
      obtain ⟨stop, upper, read⟩ := Option.bind_eq_some_iff.mp read
      cases read
      exact .slice (bound?_eq_some_iff.mp lower) (bound?_eq_some_iff.mp upper)
    · rw [cut_of_not_mem colon] at read
      obtain ⟨position, integer, rfl⟩ := Option.map_eq_some_iff.mp read
      exact .index (integer?_eq_some_iff.mp integer)
  · intro writes
    cases writes with
    | index integer =>
        rw [cut_of_not_mem (WritesBound.present integer).colon_not_mem]
        exact Option.map_eq_some_iff.mpr ⟨_, integer?_eq_some_iff.mpr integer, rfl⟩
    | slice lower upper =>
        rw [cut_append lower.colon_not_mem]
        simp [bound?_eq_some_iff.mpr lower, bound?_eq_some_iff.mpr upper]

theorem writesBrackets_of_readBrackets {seen text : List Char} {steps : List Step}
    (read : readBrackets seen text = .ok steps) :
    WritesBrackets ('[' :: (seen ++ text)) steps := by
  fun_induction readBrackets seen text generalizing steps with
  | case1 | case2 | case5 => cases read
  | case3 seen step found =>
      cases read
      exact .more (bracketStep?_eq_some_iff.mp found) .none
  | case4 seen step found rest induction =>
      obtain ⟨others, others_read, same⟩ := bind_eq_ok.mp read
      cases same
      exact .more (bracketStep?_eq_some_iff.mp found) (induction others_read)
  | case6 seen character rest other induction =>
      have writes := induction read
      rwa [List.append_assoc, List.singleton_append] at writes

theorem readBrackets_inside {inside : List Char} (absent : ']' ∉ inside)
    (seen after : List Char) :
    readBrackets seen (inside ++ ']' :: after) =
      readBrackets (seen ++ inside) (']' :: after) := by
  induction inside generalizing seen with
  | nil => rw [List.nil_append, List.append_nil]
  | cons character rest induction =>
      obtain ⟨differ, absent⟩ := not_or.mp (mt List.mem_cons.mpr absent)
      rw [List.cons_append, readBrackets, if_neg (Ne.symm differ), induction absent,
        List.append_assoc, List.singleton_append]

theorem readBrackets_of_writesInside {inside : List Char} {step : Step}
    (writes : WritesInside inside step) : readBrackets [] (inside ++ [']']) = .ok [step] := by
  have closed : ']' ∉ inside := writes.not_mem rfl (by decide)
  rw [readBrackets_inside closed, List.nil_append, readBrackets, if_pos rfl,
    bracketStep?_eq_some_iff.mpr writes]

theorem readBrackets_of_writesBrackets {text : List Char} {steps : List Step}
    (writes : WritesBrackets ('[' :: text) steps) : readBrackets [] text = .ok steps := by
  generalize bracketed : '[' :: text = whole at writes
  induction writes generalizing text with
  | none => cases bracketed
  | @more inside after step steps first rest induction =>
      cases bracketed
      have read := readBrackets_of_writesInside first
      cases after with
      | nil =>
          cases rest
          exact read
      | cons next after =>
          have opens : next = '[' := by
            cases rest
            rfl
          subst opens
          have joined := readBrackets_append read after
          rw [induction rfl, List.append_assoc, List.singleton_append] at joined
          exact joined

theorem readPiece_eq_ok_iff {piece : List Char} (pointless : '.' ∉ piece)
    {steps : List Step} : readPiece piece = .ok steps ↔ WritesPiece piece steps := by
  constructor
  · intro read
    rcases readPiece_eq_ok read with
      ⟨present, unopened, unclosed, rfl⟩ |
      ⟨name, brackets, others, rfl, unopened, unclosed, others_read, rfl⟩
    · have named := WritesPiece.name ⟨present, pointless, unopened, unclosed⟩ .none
      rwa [List.append_nil, ← nameSteps_of_ne_nil present] at named
    · have writes := writesBrackets_of_readBrackets others_read
      by_cases present : name = []
      · subst present
        cases writes with
        | more first rest => exact .brackets (.more first rest)
      · rw [nameSteps_of_ne_nil present]
        have pointless : '.' ∉ name := fun member => pointless (List.mem_append_left _ member)
        exact .name ⟨present, pointless, unopened, unclosed⟩ writes
  · intro writes
    cases writes with
    | name proper rest =>
        obtain ⟨present, _, unopened, unclosed⟩ := proper
        cases rest with
        | none =>
            rw [List.append_nil, ← nameSteps_of_ne_nil present]
            exact readPiece_name present unopened unclosed
        | more first rest =>
            have read := readBrackets_of_writesBrackets (.more first rest)
            rw [List.cons_append, readPiece_brackets unopened unclosed,
              nameSteps_of_ne_nil present]
            exact map_eq_ok.mpr ⟨_, read, rfl⟩
    | brackets all =>
        cases all with
        | more first rest =>
            have read := readBrackets_of_writesBrackets (.more first rest)
            have piece := readPiece_brackets List.not_mem_nil List.not_mem_nil
            rw [List.cons_append, ← List.nil_append (_ :: _), piece]
            exact map_eq_ok.mpr ⟨_, read, rfl⟩

theorem readPieces_eq_ok_iff {text : List Char} {steps : List Step} :
    readPieces (pieces '.' text) = .ok steps ↔ WritesPieces text steps := by
  constructor
  · intro read
    induction length : text.length using Nat.strongRecOn generalizing text steps with
    | ind _ induction =>
        by_cases point : '.' ∈ text
        · obtain ⟨first, rest, rfl, pointless⟩ := List.eq_append_cons_of_mem point
          rw [pieces_append_of_not_mem pointless] at read
          obtain ⟨own, own_read, read⟩ := bind_eq_ok.mp read
          obtain ⟨others, others_read, same⟩ := bind_eq_ok.mp read
          cases same
          have shorter : rest.length < (first ++ '.' :: rest).length := by
            simp
            omega
          apply WritesPieces.more ((readPiece_eq_ok_iff pointless).mp own_read)
          exact induction rest.length (by omega) others_read rfl
        · rw [pieces_of_not_mem point] at read
          obtain ⟨own, own_read, read⟩ := bind_eq_ok.mp read
          obtain ⟨others, others_read, same⟩ := bind_eq_ok.mp read
          cases others_read
          cases same
          rw [List.append_nil]
          exact .one ((readPiece_eq_ok_iff point).mp own_read)
  · intro writes
    induction writes with
    | one piece =>
        have pointless := piece.point_not_mem
        rw [pieces_of_not_mem pointless, readPieces, (readPiece_eq_ok_iff pointless).mpr piece]
        simp [readPieces, bind, Except.bind]
    | more piece rest induction =>
        have pointless := piece.point_not_mem
        rw [pieces_append_of_not_mem pointless, readPieces, (readPiece_eq_ok_iff pointless).mpr piece,
          induction]
        rfl

theorem readSteps_eq_ok_iff {text : List Char} {steps : List Step} :
    readSteps text = .ok steps ↔ WritesSteps text steps := by
  constructor
  · intro read
    rw [readSteps.eq_def] at read
    split at read
    · cases read
      exact .none
    · exact .pointed (readPieces_eq_ok_iff.mp read)
    · exact .bracketed (readPieces_eq_ok_iff.mp read)
    · cases read
  · intro writes
    cases writes with
    | none => rfl
    | pointed pieces => exact readPieces_eq_ok_iff.mpr pieces
    | bracketed pieces => exact readPieces_eq_ok_iff.mpr pieces

theorem readText_eq_ok_iff {text : List Char} {path : Path} :
    readText text = .ok path ↔ Writes text path := by
  rw [readText_eq_ok, Writes]
  simp only [readSteps_eq_ok_iff]

/-- A step that can be written: by a proper name, or by integers of sixty-four bits. -/
def Step.Expressible : Step → Prop
  | .key name => IsName name.toList
  | .index position => IsWord position
  | .slice start stop => (∀ bound ∈ start, IsWord bound) ∧ ∀ bound ∈ stop, IsWord bound

theorem writesBound_boundText {bound : Option Int} (fits : ∀ value ∈ bound, IsWord value) :
    WritesBound (boundText bound) bound := by
  cases bound with
  | none => exact .absent
  | some value => exact .present (writesInteger_integerText (fits value rfl))

theorem isContinuation_text (step : Step) : IsContinuation step.text := by
  cases step with
  | key name => exact .point _
  | index position => exact .bracket _
  | slice start stop => exact .bracket _

theorem Step.Expressible.writes {step : Step} (expressible : step.Expressible) :
    WritesSteps step.text [step] := by
  cases step with
  | key name =>
      apply WritesSteps.pointed
      apply WritesPieces.one
      have named := WritesPiece.name expressible .none
      rwa [List.append_nil, String.ofList_toList] at named
  | index position =>
      apply WritesSteps.bracketed
      apply WritesPieces.one
      exact .brackets (.more (.index (writesInteger_integerText expressible)) .none)
  | slice start stop =>
      apply WritesSteps.bracketed
      apply WritesPieces.one
      have inside := WritesInside.slice (writesBound_boundText expressible.1)
        (writesBound_boundText expressible.2)
      exact .brackets (.more inside .none)

theorem isContinuation_flatMap_text (steps : List Step) :
    IsContinuation (steps.flatMap Step.text) := by
  induction steps with
  | nil => exact .none
  | cons step rest induction =>
      rw [List.flatMap_cons]
      exact (isContinuation_text step).append induction

theorem readSteps_flatMap_text {steps : List Step}
    (expressible : ∀ step ∈ steps, step.Expressible) :
    readSteps (steps.flatMap Step.text) = .ok steps := by
  induction steps with
  | nil => rfl
  | cons step rest induction =>
      obtain ⟨first, others⟩ := List.forall_mem_cons.mp expressible
      have read := readSteps_eq_ok_iff.mpr first.writes
      rw [List.flatMap_cons, readSteps_append read (isContinuation_flatMap_text rest),
        induction others]
      rfl

theorem WritesBound.isWord {text : List Char} {bound : Option Int}
    (writes : WritesBound text bound) : ∀ value ∈ bound, IsWord value := by
  intro value member
  cases writes with
  | absent => cases member
  | present integer =>
      cases member
      exact integer.isWord

theorem WritesBrackets.expressible {text : List Char} {steps : List Step}
    (writes : WritesBrackets text steps) : ∀ step ∈ steps, step.Expressible := by
  induction writes with
  | none => nofun
  | more first rest induction =>
      apply List.forall_mem_cons.mpr ⟨_, induction⟩
      cases first with
      | index integer => exact integer.isWord
      | slice lower upper => exact ⟨lower.isWord, upper.isWord⟩

theorem WritesPiece.expressible {text : List Char} {steps : List Step}
    (writes : WritesPiece text steps) : ∀ step ∈ steps, step.Expressible := by
  cases writes with
  | name proper rest =>
      apply List.forall_mem_cons.mpr ⟨_, rest.expressible⟩
      rw [Step.Expressible, String.toList_ofList]
      exact proper
  | brackets all => exact all.expressible

theorem WritesPieces.expressible {text : List Char} {steps : List Step}
    (writes : WritesPieces text steps) : ∀ step ∈ steps, step.Expressible := by
  induction writes with
  | one piece => exact piece.expressible
  | more piece rest induction =>
      exact List.forall_mem_append.mpr ⟨piece.expressible, induction⟩

/-- Only steps that can be written are ever read. -/
theorem WritesSteps.expressible {text : List Char} {steps : List Step}
    (writes : WritesSteps text steps) : ∀ step ∈ steps, step.Expressible := by
  cases writes with
  | none => nofun
  | pointed pieces => exact pieces.expressible
  | bracketed pieces => exact pieces.expressible

/-- A path that can be written. -/
def Expressible (path : Path) : Prop :=
  ∀ step ∈ path.steps, step.Expressible

/-- A path expression is read exactly if the grammar has it, as the path that the grammar
says, and the canonical text of a path is read as that path exactly if the path can be
written. -/
theorem read_eq_ok_iff_writes :
    (∀ (expression : String) (path : Path),
      Path.read expression = .ok path ↔ Writes expression.toList path) ∧
    ∀ path : Path, Path.read path.text = .ok path ↔ path.Expressible := by
  constructor
  · intro expression path
    exact readText_eq_ok_iff
  · intro path
    constructor
    · intro read
      obtain ⟨rest, _, steps_read⟩ := readText_eq_ok.mp read
      exact (readSteps_eq_ok_iff.mp steps_read).expressible
    · intro expressible
      apply readText_eq_ok.mpr
      refine ⟨path.steps.flatMap Step.text, ?_, readSteps_flatMap_text expressible⟩
      rw [Path.text, String.toList_ofList]

/-- Integers may have a sign and leading zeros. -/
example : Path.read "$$.rows[+01:][-0].id" =
    .ok ⟨.context, [.key "rows", .slice (some 1) none, .index 0, .key "id"]⟩ := by
  decide +kernel

end Path

end StatesLanguage
