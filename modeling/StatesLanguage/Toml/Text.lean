import StatesLanguage.Text.Digit

/-!
# TOML texts

Blanks, comments, the four kinds of strings, and keys.  A line ends at a line feed,
which a carriage return may precede; no other control character but the tab may stand
in a text.
-/

namespace StatesLanguage

namespace Toml

def isBlank (character : Char) : Bool :=
  character = ' ' || character = '\t'

/-- A character that may stand in a comment and between quotes: a tab or no
control. -/
def isPrintable (character : Char) : Bool :=
  character = '\t' || (' ' ≤ character && character ≠ '\x7f')

/-- A character of a key without quotes. -/
def isKeyCharacter (character : Char) : Bool :=
  character.isAlphanum || character = '_' || character = '-'

def skipBlanks (text : List Char) : List Char :=
  text.dropWhile isBlank

/-- The text after the end of a line, if it starts with one. -/
def dropLineEnd? : List Char → Option (List Char)
  | '\n' :: rest => some rest
  | '\r' :: '\n' :: rest => some rest
  | _ => none

/-- The text after a comment, if it starts with one. -/
def skipComment : List Char → List Char
  | '#' :: rest => rest.dropWhile isPrintable
  | text => text

/-- The text after what may close a statement: blanks, a comment, and the end of the
line or of the text. -/
def finishLine? (text : List Char) : Option (List Char) :=
  match skipComment (skipBlanks text) with
  | [] => some []
  | rest => dropLineEnd? rest

/-- The text after blanks, comments and line ends; a comment reaches up to the end of
a line.  Each round ends a line, so the length of the text is fuel enough. -/
def skipLines? : (fuel : Nat) → List Char → Option (List Char)
  | 0, _ => none
  | fuel + 1, text =>
      match skipBlanks text with
      | '#' :: rest =>
          match rest.dropWhile isPrintable with
          | [] => some []
          | rest => (dropLineEnd? rest).bind (skipLines? fuel)
      | rest =>
          match dropLineEnd? rest with
          | some rest => skipLines? fuel rest
          | none => some rest

/-- What a one-letter escape stands for. -/
def letterEscape? (letter : Char) : Option Char :=
  match letter with
  | 'b' => some '\x08'
  | 't' => some '\t'
  | 'n' => some '\n'
  | 'f' => some '\x0c'
  | 'r' => some '\r'
  | '\x22' => some '\x22'
  | '\x5c' => some '\x5c'
  | _ => none

/-- The character whose hexadecimal number starts a text. -/
def readCodePoint? (digits : Nat) (text : List Char) : Option (Char × List Char) := do
  let values ← (text.take digits).mapM Text.hexDigit?
  let value := values.foldl (fun value digit => 16 * value + digit) 0
  if values.length = digits ∧ value.isValidChar then
    some (Char.ofNat value, text.drop digits)
  else none

def readEscape? : List Char → Option (Char × List Char)
  | 'u' :: rest => readCodePoint? 4 rest
  | 'U' :: rest => readCodePoint? 8 rest
  | letter :: rest => (letterEscape? letter).map (·, rest)
  | [] => none

/-- The text after its blanks and line ends. -/
def skipBlankLines : List Char → List Char
  | [] => []
  | '\n' :: rest => skipBlankLines rest
  | '\r' :: '\n' :: rest => skipBlankLines rest
  | character :: rest =>
      if isBlank character then skipBlankLines rest else character :: rest

/-- The text after an escaped line end, which takes blanks before it and all blanks
and line ends behind it. -/
def skipEscapedLineEnd? (text : List Char) : Option (List Char) :=
  (dropLineEnd? (skipBlanks text)).map skipBlankLines

/-- Puts a character before a string that was read. -/
def prepend (character : Char) (reading : Option (List Char × List Char)) :
    Option (List Char × List Char) :=
  reading.map fun (characters, rest) => (character :: characters, rest)

/-- Reads a basic string of one line after its opening quote. -/
def readBasic? : (fuel : Nat) → List Char → Option (List Char × List Char)
  | 0, _ => none
  | _, [] => none
  | fuel + 1, character :: rest =>
      if character = '\x22' then some ([], rest)
      else if character = '\x5c' then do
        let (escaped, rest) ← readEscape? rest
        prepend escaped (readBasic? fuel rest)
      else if isPrintable character then prepend character (readBasic? fuel rest)
      else none

/-- Reads a literal string of one line after its opening quote. -/
def readLiteral? : List Char → Option (List Char × List Char)
  | [] => none
  | character :: rest =>
      if character = '\x27' then some ([], rest)
      else if isPrintable character then prepend character (readLiteral? rest)
      else none

/-- The quotes that close a string of several lines: three, and before them up to two
that belong to the string. -/
def closingQuotes? (quote : Char) (text : List Char) :
    Option (List Char × List Char) :=
  let quotes := (text.takeWhile (· = quote)).length
  if quotes < 3 then none
  else
    let kept := min (quotes - 3) 2
    some (List.replicate kept quote, text.drop (kept + 3))

/-- Reads a string of several lines after its opening quotes.  Only a basic one has
escapes. -/
def readLines? (quote : Char) (escapes : Bool) :
    (fuel : Nat) → List Char → Option (List Char × List Char)
  | 0, _ => none
  | fuel + 1, text =>
      match closingQuotes? quote text with
      | some reading => some reading
      | none =>
          match text with
          | [] => none
          | character :: rest =>
              match dropLineEnd? text with
              | some rest => prepend '\n' (readLines? quote escapes fuel rest)
              | none =>
                  if escapes && character = '\x5c' then
                    match skipEscapedLineEnd? rest with
                    | some rest => readLines? quote escapes fuel rest
                    | none => do
                        let (escaped, rest) ← readEscape? rest
                        prepend escaped (readLines? quote escapes fuel rest)
                  else if isPrintable character then
                    prepend character (readLines? quote escapes fuel rest)
                  else none

/-- Reads a string of any kind.  A line end right after three opening quotes does not
count. -/
def readString? (text : List Char) : Option (List Char × List Char) :=
  let fuel := text.length + 1
  match text with
  | '\x22' :: '\x22' :: '\x22' :: rest =>
      readLines? '\x22' true fuel ((dropLineEnd? rest).getD rest)
  | '\x27' :: '\x27' :: '\x27' :: rest =>
      readLines? '\x27' false fuel ((dropLineEnd? rest).getD rest)
  | '\x22' :: rest => readBasic? fuel rest
  | '\x27' :: rest => readLiteral? rest
  | _ => none

/-- Reads one part of a key: a string of one line, or some key characters. -/
def readKeyPart? (text : List Char) : Option (String × List Char) :=
  match text with
  | '\x22' :: rest =>
      (readBasic? (rest.length + 1) rest).map fun (name, rest) => (String.ofList name, rest)
  | '\x27' :: rest =>
      (readLiteral? rest).map fun (name, rest) => (String.ofList name, rest)
  | text =>
      let name := text.takeWhile isKeyCharacter
      if name.isEmpty then none
      else some (String.ofList name, text.dropWhile isKeyCharacter)

/-- A key has fewer parts than this. -/
def keyLimit : Nat := 80

/-- Reads a key and the blanks around it: parts with points between them. -/
def readKeyParts? : (fuel : Nat) → List Char → Option (List String × List Char)
  | 0, _ => none
  | fuel + 1, text => do
      let (part, rest) ← readKeyPart? (skipBlanks text)
      match skipBlanks rest with
      | '.' :: rest => do
          let (parts, rest) ← readKeyParts? fuel rest
          some (part :: parts, rest)
      | rest => some ([part], rest)

/-- Reads a key with the blanks around it. -/
def readKey? (text : List Char) : Option (List String × List Char) :=
  readKeyParts? (keyLimit - 1) text

end Toml

end StatesLanguage
