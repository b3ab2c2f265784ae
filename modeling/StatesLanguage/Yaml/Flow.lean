import StatesLanguage.Text.Digit
import StatesLanguage.Yaml.Gap

/-!
# Plain and quoted scalars

A plain scalar ends at a comment, at a colon before a blank, at a document mark, at a
line that is not indented enough and, between brackets, at a comma or a bracket.
Quoted scalars end at their quote; a doubled single quote and the backslash escapes
of double quotes stand for characters.
-/

namespace StatesLanguage

namespace Yaml

/-- A plain scalar that was read: its text, whether a line ended behind it, and the
text that follows its gap. -/
structure PlainReading where
  text : List Char
  endsLine : Bool
  rest : List Placed

/-- The characters that end a plain scalar between brackets. -/
def flowIndicators : List Char := [',', '[', ']', '\x7b', '\x7d']

/-- Reads a plain scalar, after the given gap.  Lines after the first must be indented
to the column `indent`, unless the scalar stands between brackets. -/
def readPlain (flow : Bool) (indent : Nat) :
    Gap → List Placed → Option PlainReading
  | gap, [] => some ⟨[], gap.hasBreak, []⟩
  | gap, next :: rest =>
      if isBlank next.char || isBreak next.char then
        if gap.hasBreak && next.char = '\t' && next.column < indent then none
        else readPlain flow indent (gap.add next.char) rest
      else if !gap.isEmpty && ((gap.hasBreak && !flow && next.column < indent) ||
          isAnyDocumentMark (next :: rest) || next.char = '#') then
        some ⟨[], gap.hasBreak, next :: rest⟩
      else if flow && next.char = ':' && startsWithOneOf ('?' :: flowIndicators) rest then
        none
      else if (next.char = ':' && wordEnds rest) ||
          (flow && flowIndicators.contains next.char) then
        some ⟨[], gap.hasBreak, next :: rest⟩
      else
        (readPlain flow indent Gap.empty rest).map fun reading =>
          { reading with text := gap.text ++ next.char :: reading.text }

/-- Reads a single-quoted scalar after its opening quote and the given gap. -/
def readSingleQuoted : Gap → List Placed → Option (List Char × List Placed)
  | _, [] => none
  | gap, next :: rest =>
      if isAnyDocumentMark (next :: rest) then none
      else if isBlank next.char || isBreak next.char then
        readSingleQuoted (gap.add next.char) rest
      else if next.char = '\x27' then
        match rest with
        | [] => some (gap.text, [])
        | second :: rest =>
            if second.char = '\x27' then
              prependText (gap.text ++ ['\x27']) (readSingleQuoted Gap.empty rest)
            else some (gap.text, second :: rest)
      else prependText (gap.text ++ [next.char]) (readSingleQuoted Gap.empty rest)

/-- What a one-letter escape stands for. -/
def letterEscape? (letter : Char) : Option Char :=
  match letter with
  | '0' => some '\x00'
  | 'a' => some '\x07'
  | 'b' => some '\x08'
  | 't' | '\t' => some '\t'
  | 'n' => some '\n'
  | 'v' => some '\x0b'
  | 'f' => some '\x0c'
  | 'r' => some '\r'
  | 'e' => some '\x1b'
  | ' ' => some ' '
  | '\x22' => some '\x22'
  | '/' => some '/'
  | '\x5c' => some '\x5c'
  | 'N' => some '\u0085'
  | '_' => some '\u00a0'
  | 'L' => some '\u2028'
  | 'P' => some '\u2029'
  | _ => none

/-- How many hexadecimal digits follow the letter of a numeric escape. -/
def escapeDigits? (letter : Char) : Option Nat :=
  match letter with
  | 'x' => some 2
  | 'u' => some 4
  | 'U' => some 8
  | _ => none

/-- Where a position in a double-quoted scalar stands: among its characters, right
after a backslash, or with so many digits of a numeric escape still to come. -/
inductive EscapeState where
  | text
  | escaped
  | digits (left value : Nat)
  deriving DecidableEq, Repr

/-- Reads a double-quoted scalar after its opening quote and the given gap. -/
def readDoubleQuoted : Gap → EscapeState → List Placed →
    Option (List Char × List Placed)
  | _, _, [] => none
  | gap, .text, next :: rest =>
      if isAnyDocumentMark (next :: rest) then none
      else if isBlank next.char || isBreak next.char then
        readDoubleQuoted (gap.add next.char) .text rest
      else if next.char = '\x22' then some (gap.text, rest)
      else if next.char = '\x5c' then readDoubleQuoted gap .escaped rest
      else prependText (gap.text ++ [next.char]) (readDoubleQuoted Gap.empty .text rest)
  | gap, .escaped, next :: rest =>
      if isBreak next.char then
        prependText gap.text (readDoubleQuoted (.continued []) .text rest)
      else
        match escapeDigits? next.char, letterEscape? next.char with
        | some digits, _ => readDoubleQuoted gap (.digits digits 0) rest
        | none, some character =>
            prependText (gap.text ++ [character]) (readDoubleQuoted Gap.empty .text rest)
        | none, none => none
  | gap, .digits left value, next :: rest =>
      match Text.hexDigit? next.char with
      | none => none
      | some digit =>
          let value := 16 * value + digit
          if 1 < left then readDoubleQuoted gap (.digits (left - 1) value) rest
          else if value.isValidChar then
            prependText (gap.text ++ [Char.ofNat value])
              (readDoubleQuoted Gap.empty .text rest)
          else none

end Yaml

end StatesLanguage
