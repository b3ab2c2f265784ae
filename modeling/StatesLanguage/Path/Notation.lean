import StatesLanguage.Path
import StatesLanguage.Text.Digit

/-!
# Path expressions

The text of a path is its root, one or two dollar signs, and then pieces separated
by points.  A piece is a name followed by brackets, or brackets alone; a bracket
holds an index or a slice.  `Path.read` is the reader and `Path.text` the canonical
text of a path.
-/

namespace StatesLanguage

namespace Path

/-- Whether a text is to be taken for a path rather than for itself. -/
def isPath (text : String) : Bool :=
  match text.toList with
  | '$' :: _ => true
  | _ => false

/-- The magnitude that decimal digits write, for a text of digits only. -/
def magnitude? (text : List Char) : Option Nat :=
  if text.isEmpty then none
  else (text.mapM Text.digit?).map Text.ofDigits

/-- A signed sixty-four-bit integer: an optional sign and at least one digit. -/
def integer? (text : List Char) : Option Int :=
  let value : Option Int :=
    match text with
    | '+' :: digits => (magnitude? digits).map fun magnitude => magnitude
    | '-' :: digits => (magnitude? digits).map fun magnitude => -(magnitude : Int)
    | digits => (magnitude? digits).map fun magnitude => magnitude
  value.filter fun integer =>
    -(Number.negativeLimit : Int) ≤ integer ∧ integer < (Number.negativeLimit : Int)

/-- A bound of a slice; no text is no bound. -/
def bound? : List Char → Option (Option Int)
  | [] => some none
  | text => (integer? text).map some

/-- The text before the first occurrence of a character, and the text after it if
there is one. -/
def cut (separator : Char) : List Char → List Char × Option (List Char)
  | [] => ([], none)
  | character :: rest =>
      if character = separator then ([], some rest)
      else
        let (before, after) := cut separator rest
        (character :: before, after)

/-- The text between every two occurrences of a character; there is always at least
one. -/
def pieces (separator : Char) : List Char → List (List Char)
  | [] => [[]]
  | character :: rest =>
      if character = separator then [] :: pieces separator rest
      else
        match pieces separator rest with
        | [] => [[character]]
        | piece :: others => (character :: piece) :: others

/-- The step that the inside of a bracket writes. -/
def bracketStep? (inside : List Char) : Option Step :=
  match cut ':' inside with
  | (index, none) => (integer? index).map .index
  | (start, some stop) => do
      let start ← bound? start
      let stop ← bound? stop
      pure (.slice start stop)

/-- Brackets up to the end of a piece, after an opening bracket and what stands inside
it so far. -/
def readBrackets (inside : List Char) : List Char → Except Fault (List Step)
  | [] => .error .unclosedBracket
  | character :: rest =>
      if character = ']' then
        match bracketStep? inside with
        | none => .error .malformedBracket
        | some step =>
            match rest with
            | [] => .ok [step]
            | next :: rest =>
                if next = '[' then do
                  let steps ← readBrackets [] rest
                  .ok (step :: steps)
                else .error .textAfterBracket
      else readBrackets (inside ++ [character]) rest

/-- The key step of a name; no name is no step. -/
def nameSteps (name : List Char) : List Step :=
  if name.isEmpty then [] else [.key (String.ofList name)]

/-- The steps of a piece: a name, brackets, or a name followed by brackets. -/
def readPiece (piece : List Char) : Except Fault (List Step) :=
  match cut '[' piece with
  | (name, none) =>
      if name.isEmpty then .error .emptyPiece
      else if name.contains ']' then .error .strayBracket
      else .ok (nameSteps name)
  | (name, some brackets) =>
      if name.contains ']' then .error .strayBracket
      else do
        let steps ← readBrackets [] brackets
        .ok (nameSteps name ++ steps)

/-- The steps of pieces, one after another; the first fault counts. -/
def readPieces : List (List Char) → Except Fault (List Step)
  | [] => .ok []
  | piece :: rest => do
      let steps ← readPiece piece
      let more ← readPieces rest
      .ok (steps ++ more)

/-- The steps that follow a root. -/
def readSteps : List Char → Except Fault (List Step)
  | [] => .ok []
  | '.' :: body => readPieces (pieces '.' body)
  | '[' :: body => readPieces (pieces '.' ('[' :: body))
  | _ => .error .noSeparator

/-- The path that a text writes. -/
def readText : List Char → Except Fault Path
  | '$' :: '$' :: rest => (readSteps rest).map (Path.mk .context)
  | '$' :: rest => (readSteps rest).map (Path.mk .document)
  | _ => .error .noRoot

/-- The path that an expression writes. -/
def read (expression : String) : Except Fault Path :=
  readText expression.toList

/-- Text of a bound of a slice. -/
def boundText : Option Int → List Char
  | none => []
  | some bound => Number.integerText bound

/-- Text of a step: a point before a name, brackets around a position. -/
def Step.text : Step → List Char
  | .key name => '.' :: name.toList
  | .index position => '[' :: Number.integerText position ++ [']']
  | .slice start stop => '[' :: boundText start ++ ':' :: boundText stop ++ [']']

def Root.text : Root → List Char
  | .document => ['$']
  | .context => ['$', '$']

/-- The canonical text of a path. -/
def text (path : Path) : String :=
  String.ofList (path.root.text ++ path.steps.flatMap Step.text)

end Path

end StatesLanguage
