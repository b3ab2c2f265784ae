import StatesLanguage.Proofs.ArgumentKinds

/-!
# The notation of calls

An argument of a call is written in one of three ways: a text in single quotes, a value as
compact document text, or a path as it is.  Each way is self-contained, so that the list
of arguments is split where it was joined, and each is evaluated to what was written.
-/

namespace StatesLanguage

open Arguments (SelfContained)

namespace Call

/-- An argument as it is meant: a text, a value, or a path expression. -/
inductive Argument where
  | literal (text : String)
  | constant (value : Document)
  | path (expression : String)

/-- An argument as it is written. -/
def Argument.written : Argument → List Char
  | .literal text => quoted text
  | .constant value => value.compactText
  | .path expression => expression.toList

/-- What an argument stands for against a document and a context.  A text holds no line
feed, numbers in a value are integers, and a path is bare and selects something. -/
inductive Argument.Denotes (document context : Document) : Argument → Document → Prop where
  | literal {text : String} (unbroken : '\n' ∉ text.toList) :
      Denotes document context (.literal text) (.string text)
  | constant {value : Document} (writable : value.Writable Document.nestingLimit) :
      Denotes document context (.constant value) value
  | path {expression : String} {value : Document}
      (bare : ∀ character ∈ expression.toList, Path.IsBare character)
      (trimmed : Text.Trimmed expression.toList)
      (resolves : document.resolve expression context = .ok value) :
      Denotes document context (.path expression) value

variable {document context : Document}

theorem exists_read_of_resolve {expression : String} {value : Document}
    (resolves : document.resolve expression context = .ok value) :
    ∃ path, Path.read expression = .ok path := by
  obtain ⟨path, read, _⟩ := Outcome.bind_eq_ok.mp (Outcome.mapError_eq_ok.mp resolves)
  exact ⟨path, read⟩

theorem Argument.Denotes.selfContained {argument : Argument} {value : Document}
    (denotes : argument.Denotes document context value) : SelfContained argument.written := by
  cases denotes with
  | literal unbroken => exact selfContained_quoted _
  | constant writable => exact writable.selfContained
  | @path expression value bare trimmed resolves =>
      obtain ⟨path, read⟩ := exists_read_of_resolve resolves
      refine ⟨?_, trimmed, Path.passes_of_read read bare 0⟩
      obtain ⟨rest, split, _⟩ := Path.readText_eq_ok_iff.mp read
      rw [written, split]
      cases path.root with
      | document | context => exact List.cons_ne_nil _ _

theorem Argument.Denotes.lineFeed_not_mem {argument : Argument} {value : Document}
    (denotes : argument.Denotes document context value) : '\n' ∉ argument.written := by
  cases denotes with
  | literal unbroken => exact lineFeed_not_mem_quoted unbroken
  | constant writable => exact writable.lineFeed_not_mem
  | path bare trimmed resolves =>
      intro member
      exact bare '\n' member (by decide)

theorem isPath_eq_false {first : Char} (other : first ≠ '$') (others : List Char) :
    Path.isPath (String.ofList (first :: others)) = false := by
  rw [Path.isPath, String.toList_ofList]
  split
  · rename_i same
    cases same
    exact absurd rfl other
  · rfl

theorem quotedInside?_eq_none {first : Char} (other : first ≠ '\x27') (others : List Char) :
    quotedInside? (first :: others) = none := by
  rw [quotedInside?.eq_def]
  split
  · rename_i same
    cases same
    exact absurd rfl other
  · rfl

theorem evaluateArgument_quoted (text : String) :
    evaluateArgument document context (quoted text) = .ok (.string text) := by
  have unrooted : Path.isPath (String.ofList (quoted text)) = false :=
    isPath_eq_false (by decide) _
  rw [evaluateArgument, unrooted, quotedInside?_quoted]
  simp [unescape_flatMap_escape]

theorem evaluateArgument_compactText {value : Document}
    (writable : value.Writable Document.nestingLimit) :
    evaluateArgument document context value.compactText = .ok value := by
  have read := Document.read_compact writable
  obtain ⟨first, others, written, begins⟩ := writable.exists_begins
  rw [Document.compact, written] at read
  rw [written, evaluateArgument, isPath_eq_false (begins.ne (by decide) rfl),
    quotedInside?_eq_none (begins.ne (by decide) rfl), read]
  rfl

/-- An argument is evaluated to what it stands for. -/
theorem Argument.Denotes.evaluateArgument {argument : Argument} {value : Document}
    (denotes : argument.Denotes document context value) :
    evaluateArgument document context argument.written = .ok value := by
  cases denotes with
  | literal unbroken => exact evaluateArgument_quoted _
  | constant writable => exact evaluateArgument_compactText writable
  | path bare trimmed resolves =>
      obtain ⟨path, read⟩ := exists_read_of_resolve resolves
      rw [written, Call.evaluateArgument, String.ofList_toList, Path.isPath_of_read read]
      exact resolves

theorem exists_denotes {arguments : List Argument} {values : List Document}
    (denote : List.Forall₂ (Argument.Denotes document context) arguments values) :
    ∀ argument ∈ arguments, ∃ value, argument.Denotes document context value := by
  induction denote with
  | nil => nofun
  | cons first rest induction => exact List.forall_mem_cons.mpr ⟨⟨_, first⟩, induction⟩

theorem evaluateArguments_written {arguments : List Argument} {values : List Document}
    (denote : List.Forall₂ (Argument.Denotes document context) arguments values) :
    evaluateArguments document context (arguments.map Argument.written) = .ok values := by
  induction denote with
  | nil => rfl
  | cons first rest induction =>
      rw [List.map_cons, evaluateArguments, first.evaluateArgument, induction]
      rfl

/-- An argument with blanks around it, none of which breaks the line. -/
structure Spaced where
  before : List Char
  argument : Argument
  after : List Char
  blank : ∀ character ∈ before ++ after, Text.isBlank character = true
  unbroken : '\n' ∉ before ++ after

def Spaced.text (spaced : Spaced) : List Char :=
  spaced.before ++ spaced.argument.written ++ spaced.after

theorem Spaced.pads (spaced : Spaced) : Text.Pads spaced.text spaced.argument.written := by
  obtain ⟨before_blank, after_blank⟩ := List.forall_mem_append.mp spaced.blank
  exact ⟨spaced.before, spaced.after, before_blank, after_blank, rfl⟩

/-- An argument list as it is written. -/
def listed (arguments : List Spaced) : List Char :=
  [','].intercalate (arguments.map Spaced.text)

theorem enclosed?_parenthesized {inside : List Char} (present : inside ≠ [])
    (unbroken : '\n' ∉ inside) : enclosed? ('(' :: (inside ++ [')'])) = some inside := by
  simp [enclosed?, present, unbroken]

theorem afterNamespace?_written (function : Intrinsic) (rest : List Char) :
    afterNamespace? (function.name.toList ++ '(' :: rest) =
      (enclosed? ('(' :: rest)).map (Call.mk function.name) := by
  have letters : ∀ character ∈ function.name.toList, isLetter character = true := by
    cases function with
    | format | jsonToString | stringToJson | array => exact List.all_eq_true.mp rfl
  have named : function.name.toList.isEmpty = false := by
    cases function with
    | format | jsonToString | stringToJson | array => rfl
  have ended : isLetter '(' = false := rfl
  have name : (function.name.toList ++ '(' :: rest).takeWhile isLetter =
      function.name.toList := by
    rw [List.takeWhile_append_of_pos letters, List.takeWhile_cons, ended]
    simp
  have list : (function.name.toList ++ '(' :: rest).dropWhile isLetter = '(' :: rest := by
    rw [List.dropWhile_append_of_pos letters, List.dropWhile_cons, ended]
    simp
  rw [afterNamespace?, name, list, named, String.ofList_toList]
  rfl

theorem read?_written (function : Intrinsic) {inside : List Char} (present : inside ≠ [])
    (unbroken : '\n' ∉ inside) :
    read? ("States." ++ function.name ++ "(" ++ String.ofList inside ++ ")") =
      some ⟨function.name, inside⟩ := by
  have spelled : ("States." ++ function.name ++ "(" ++ String.ofList inside ++ ")").toList =
      'S' :: 't' :: 'a' :: 't' :: 'e' :: 's' :: '.' ::
        (function.name.toList ++ '(' :: (inside ++ [')'])) := by
    simp
  rw [read?, spelled]
  change afterNamespace? _ = _
  rw [afterNamespace?_written, enclosed?_parenthesized present unbroken]
  rfl

theorem ofName_name (function : Intrinsic) : Intrinsic.ofName function.name = .ok function := by
  cases function with
  | format | jsonToString | stringToJson | array => rfl

theorem split_listed {arguments : List Spaced} {values : List Document}
    (present : arguments ≠ [])
    (denote : List.Forall₂ (Argument.Denotes document context)
      (arguments.map Spaced.argument) values) :
    Arguments.split (listed arguments) =
      .ok ((arguments.map Spaced.argument).map Argument.written) := by
  apply Arguments.split_intercalate
  · simpa using present
  · intro text member
    obtain ⟨argument, argument_member, rfl⟩ := List.mem_map.mp member
    obtain ⟨value, denotes⟩ := exists_denotes denote argument argument_member
    exact denotes.selfContained
  · rw [List.map_map, List.forall₂_map_left_iff, List.forall₂_map_right_iff, List.forall₂_same]
    exact fun spaced _ => spaced.pads

theorem lineFeed_not_mem_listed {arguments : List Spaced} {values : List Document}
    (denote : List.Forall₂ (Argument.Denotes document context)
      (arguments.map Spaced.argument) values) : '\n' ∉ listed arguments := by
  apply Text.not_mem_intercalate (by decide)
  intro text member
  obtain ⟨spaced, spaced_member, rfl⟩ := List.mem_map.mp member
  obtain ⟨value, denotes⟩ := exists_denotes denote _ (List.mem_map_of_mem spaced_member)
  have blanks := spaced.unbroken
  have own := denotes.lineFeed_not_mem
  rw [List.mem_append, not_or] at blanks
  simp [Spaced.text, blanks, own]

/-- A call of what is written has the value of the function at what the arguments stand
for. -/
theorem evaluate_written (function : Intrinsic) {arguments : List Spaced}
    {values : List Document} (present : arguments ≠ [])
    (denote : List.Forall₂ (Argument.Denotes document context)
      (arguments.map Spaced.argument) values) :
    evaluate document
        ("States." ++ function.name ++ "(" ++ String.ofList (listed arguments) ++ ")") context =
      function.apply values := by
  have divided := split_listed present denote
  have filled : listed arguments ≠ [] := by
    intro empty
    rw [empty] at divided
    cases divided
  rw [evaluate, read?_written function filled (lineFeed_not_mem_listed denote)]
  dsimp only
  rw [ofName_name, divided]
  simp only [bind, Except.bind, Except.mapError, evaluateArguments_written denote]

/-- A call that builds an array gives back what was written, in order: texts, values and
what the paths select. -/
theorem evaluate_array_written {arguments : List Spaced} {values : List Document}
    (present : arguments ≠ [])
    (denote : List.Forall₂ (Argument.Denotes document context)
      (arguments.map Spaced.argument) values) :
    evaluate document ("States.Array(" ++ String.ofList (listed arguments) ++ ")") context =
      .ok (.array values) :=
  evaluate_written .array present denote

def rows : Document :=
  .object [("rows", .array [.ofNat 3, .ofNat 5])]

/-- A nested value whose names and strings hold delimiters. -/
def nested : Document :=
  .object [("ü,", .array [.number (.integer (-7)), .string "\x7d\x22"])]

/-- One argument of each kind, with blanks around some. -/
def mixed : List Spaced :=
  [⟨[' '], .literal "it's \x5c [one, two", [' '], List.all_eq_true.mp rfl, by decide⟩,
    ⟨[], .constant nested, [' ', ' '], List.all_eq_true.mp rfl, by decide⟩,
    ⟨[' '], .path "$.rows[1]", [], List.all_eq_true.mp rfl, by decide⟩]

def mixedCall : String :=
  "States.Array( 'it\x5c's \x5c\x5c [one, two' ," ++
    "\x7b\x22ü,\x22:[-7,\x22\x7d\x5c\x22\x22]\x7d  , $.rows[1])"

theorem rows_array_mixed :
    mixed ≠ [] ∧
      List.Forall₂ (Argument.Denotes rows .null) (mixed.map Spaced.argument)
        [.string "it's \x5c [one, two", nested, .ofNat 5] ∧
      evaluate rows mixedCall .null =
        .ok (.array [.string "it's \x5c [one, two", nested, .ofNat 5]) := by
  have present : mixed ≠ [] := List.cons_ne_nil _ _
  have writable : nested.Writable Document.nestingLimit := by
    apply Document.Writable.object (by decide)
    rintro name value (_ | ⟨_, ⟨⟩⟩)
    apply Document.Writable.array
    intro item member
    simp only [List.mem_cons, List.not_mem_nil, or_false] at member
    rcases member with rfl | rfl
    · exact .integer _ (by decide)
    · exact .string _ _
  have resolves : rows.resolve "$.rows[1]" .null = .ok (.ofNat 5) := by decide +kernel
  have denote : List.Forall₂ (Argument.Denotes rows .null) (mixed.map Spaced.argument)
      [.string "it's \x5c [one, two", nested, .ofNat 5] := by
    apply List.Forall₂.cons (.literal (by decide))
    apply List.Forall₂.cons (.constant writable)
    have bare : ∀ character ∈ "$.rows[1]".toList, Path.IsBare character := by
      simp [Path.IsBare]
    have trimmed : Text.Trimmed "$.rows[1]".toList := by
      apply Text.trimmed_of_visible
      simp [Text.isBlank]
    exact .cons (.path bare trimmed resolves) .nil
  have spelled : "States.Array(" ++ String.ofList (listed mixed) ++ ")" = mixedCall := by
    decide +kernel
  have evaluated := evaluate_array_written present denote
  rw [spelled] at evaluated
  exact ⟨present, denote, evaluated⟩

end Call

end StatesLanguage
