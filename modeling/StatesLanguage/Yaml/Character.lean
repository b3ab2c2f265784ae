/-!
# Characters of a YAML text

A text is read as characters that know their line and column.  The three line ends
of one or two control characters count as one line feed each; the two Unicode
separators end a line too and stay what they are.
-/

namespace StatesLanguage

namespace Yaml

/-- A character with the line and the column, both from zero, that it stands at. -/
structure Placed where
  char : Char
  line : Nat
  column : Nat
  deriving DecidableEq, Repr

def isBlank (character : Char) : Bool :=
  character = ' ' || character = '\t'

/-- A line feed or one of the two Unicode separators. -/
def isBreak (character : Char) : Bool :=
  character = '\n' || character = '\u2028' || character = '\u2029'

/-- A letter, a digit, an underscore or a hyphen. -/
def isNameCharacter (character : Char) : Bool :=
  character.isAlphanum || character = '_' || character = '-'

/-- The characters that a text may hold: all but most of the controls. -/
def isAllowed (character : Char) : Bool :=
  let code := character.toNat
  code = 0x9 || code = 0xa || code = 0xd || (0x20 ≤ code && code ≤ 0x7e) ||
    code = 0x85 || (0xa0 ≤ code && code ≤ 0xfffd) || 0x10000 ≤ code

/-- A text with a line feed for each carriage return, each pair of the two, and each
next-line control. -/
def unifyBreaks : List Char → List Char
  | [] => []
  | '\r' :: '\n' :: rest => '\n' :: unifyBreaks rest
  | character :: rest =>
      (if character = '\r' ∨ character = '\u0085' then '\n' else character) ::
        unifyBreaks rest

/-- Gives each character its place, the first one the given place. -/
def place : (line column : Nat) → List Char → List Placed
  | _, _, [] => []
  | line, column, character :: rest =>
      ⟨character, line, column⟩ ::
        if isBreak character then place (line + 1) 0 rest
        else place line (column + 1) rest

/-- The characters of a text, if all are allowed.  A byte order mark at the start is
no part of the content but takes up a column. -/
def placed? (text : String) : Option (List Placed) :=
  let characters := text.toList
  if characters.all isAllowed then
    some <|
      match characters with
      | '\ufeff' :: rest => place 0 1 (unifyBreaks rest)
      | _ => place 0 0 (unifyBreaks characters)
  else none

/-- Whether a word ends here: at a blank, a line break or the end of the text. -/
def wordEnds : List Placed → Bool
  | [] => true
  | next :: _ => isBlank next.char || isBreak next.char

/-- Whether a line ends here. -/
def lineEnds : List Placed → Bool
  | [] => true
  | next :: _ => isBreak next.char

/-- Whether the text goes on with one of some characters. -/
def startsWithOneOf (choices : List Char) : List Placed → Bool
  | [] => false
  | next :: _ => choices.contains next.char

/-- Whether three times this character stands here as a document mark: at the start
of a line and as a word of its own. -/
def isDocumentMark (mark : Char) : List Placed → Bool
  | first :: second :: third :: rest =>
      first.column = 0 && first.char = mark && second.char = mark &&
        third.char = mark && wordEnds rest
  | _ => false

/-- Whether a document mark of either kind stands here. -/
def isAnyDocumentMark (text : List Placed) : Bool :=
  isDocumentMark '-' text || isDocumentMark '.' text

/-- The longest start of a text whose characters satisfy a predicate, and the rest. -/
def spanPlaced (keep : Char → Bool) : List Placed → List Char × List Placed
  | [] => ([], [])
  | next :: rest =>
      if keep next.char then
        let (kept, text) := spanPlaced keep rest
        (next.char :: kept, text)
      else ([], next :: rest)

def skipBlanks (text : List Placed) : List Placed :=
  (spanPlaced isBlank text).2

/-- The text after blanks and a comment, which must reach up to the end of a line;
the end of the line is left out too. -/
def finishLine? (text : List Placed) : Option (List Placed) :=
  let afterBlanks := skipBlanks text
  let afterComment :=
    if startsWithOneOf ['#'] afterBlanks then
      (spanPlaced (!isBreak ·) afterBlanks).2
    else afterBlanks
  if lineEnds afterComment then some (afterComment.drop 1) else none

end Yaml

end StatesLanguage
