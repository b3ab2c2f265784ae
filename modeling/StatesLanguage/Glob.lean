/-!
# Wildcard patterns

A pattern is read as tokens: a backslash makes the next character a literal one, a
bare asterisk is a gap, and any other character is a literal.  A text matches if it
is the literals in order, with at least one character in place of each gap.  `Denotes`
states that meaning and `Glob.accepts` decides it in one pass over the text, whatever
the number of gaps.
-/

namespace StatesLanguage

namespace Glob

/-- A part of a pattern. -/
inductive Token where
  | literal (character : Char)
  | gap
  deriving DecidableEq, Repr

/-- The tokens of a pattern; none if it ends in a bare backslash. -/
def tokens? : List Char → Option (List Token)
  | [] => some []
  | ['\x5c'] => none
  | '\x5c' :: character :: rest => (tokens? rest).map (.literal character :: ·)
  | '*' :: rest => (tokens? rest).map (.gap :: ·)
  | character :: rest => (tokens? rest).map (.literal character :: ·)

/-- The texts that tokens stand for. -/
inductive Denotes : List Token → List Char → Prop where
  | nil : Denotes [] []
  | literal (character : Char) {tokens : List Token} {text : List Char} :
      Denotes tokens text → Denotes (.literal character :: tokens) (character :: text)
  | gap {filling : List Char} (nonempty : filling ≠ []) {tokens : List Token}
      {text : List Char} :
      Denotes tokens text → Denotes (.gap :: tokens) (filling ++ text)

/-- For each end of the tokens, the whole first, whether the empty text matches. -/
def emptyRow : List Token → List Bool
  | [] => [true]
  | _ :: tokens => false :: emptyRow tokens

/-- The row of a text from the row of the text after its first character. -/
def advance (character : Char) : List Token → List Bool → List Bool
  | .literal expected :: tokens, _ :: row =>
      (expected = character && row.headD false) :: advance character tokens row
  | .gap :: tokens, here :: row =>
      (here || row.headD false) :: advance character tokens row
  | _, _ => [false]

/-- For each end of the tokens, the whole first, whether the text matches. -/
def row (tokens : List Token) : List Char → List Bool
  | [] => emptyRow tokens
  | character :: rest => advance character tokens (row tokens rest)

/-- Whether a text matches tokens. -/
def tokensAccept (tokens : List Token) (text : List Char) : Bool :=
  (row tokens text).headD false

/-- The pattern of literals that matches one text only. -/
def escaped : List Char → List Char
  | [] => []
  | character :: rest =>
      if character = '*' ∨ character = '\x5c' then '\x5c' :: character :: escaped rest
      else character :: escaped rest

end Glob

/-- A pattern: its source and the tokens it was read as. -/
structure Glob where
  source : String
  tokens : List Glob.Token
  deriving DecidableEq, Repr

namespace Glob

/-- The pattern that a source writes. -/
def read? (source : String) : Option Glob :=
  (tokens? source.toList).map (Glob.mk source)

/-- Whether a text matches the pattern. -/
def accepts (glob : Glob) (text : String) : Bool :=
  tokensAccept glob.tokens text.toList

end Glob

end StatesLanguage
