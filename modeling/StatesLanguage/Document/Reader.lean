import StatesLanguage.Document
import StatesLanguage.Text.Digit

/-!
# Reading document text

The grammar of JSON, strictly: no leading zeros, no trailing commas, no control
characters inside strings, escaped surrogates only in pairs, and blanks are space,
tab, line feed and carriage return.  Of members with one name the last counts, and
containers nest only to a given depth.
-/

namespace StatesLanguage

namespace Document

/-- Text that is no document; reading stopped before the last `unread`
characters. -/
structure Malformed where
  unread : Nat
  deriving DecidableEq, Repr

/-- Reading stops in front of this text. -/
def stopAt {α : Type} (text : List Char) : Except Malformed α :=
  .error ⟨text.length⟩

/-- The blanks of the grammar. -/
def isBlank (character : Char) : Bool :=
  character = ' ' || character = '\t' || character = '\n' || character = '\r'

def skipBlanks : List Char → List Char
  | [] => []
  | character :: rest =>
      if isBlank character then skipBlanks rest else character :: rest

/-- The whole part of a number: a lone zero, or digits that start with another. -/
def readWhole (text : List Char) : Except Malformed (List Nat × List Char) :=
  match Text.takeDigits text with
  | ([], rest) => stopAt rest
  | (0 :: _ :: _, rest) => stopAt rest
  | (digits, rest) => .ok (digits, rest)

/-- The fraction of a number, if there is one: a point and at least one digit. -/
def readFraction : List Char → Except Malformed (Option (List Nat) × List Char)
  | '.' :: text =>
      match Text.takeDigits text with
      | ([], rest) => stopAt rest
      | (digits, rest) => .ok (some digits, rest)
  | text => .ok (none, text)

/-- The digits of an exponent, after its sign. -/
def readPowerDigits (negative : Bool) (text : List Char) :
    Except Malformed (Option Int × List Char) :=
  match Text.takeDigits text with
  | ([], rest) => stopAt rest
  | (digits, rest) =>
      let magnitude : Int := Text.ofDigits digits
      .ok (some (if negative then -magnitude else magnitude), rest)

/-- The exponent of a number, if there is one. -/
def readPower : List Char → Except Malformed (Option Int × List Char)
  | 'e' :: '+' :: text | 'E' :: '+' :: text => readPowerDigits false text
  | 'e' :: '-' :: text | 'E' :: '-' :: text => readPowerDigits true text
  | 'e' :: text | 'E' :: text => readPowerDigits false text
  | text => .ok (none, text)

/-- A number, after its sign. -/
def readNumber (negative : Bool) (text : List Char) : Except Malformed (Document × List Char) := do
  let (whole, text) ← readWhole text
  let (fraction, text) ← readFraction text
  let (power, text) ← readPower text
  match Number.ofLiteral? ⟨negative, whole, fraction, power⟩ with
  | some value => .ok (.number value, text)
  | none => stopAt text

/-- The value of four hexadecimal digits. -/
def hexQuad? (first second third fourth : Char) : Option Nat := do
  let a ← Text.hexDigit? first
  let b ← Text.hexDigit? second
  let c ← Text.hexDigit? third
  let d ← Text.hexDigit? fourth
  pure (((a * 16 + b) * 16 + c) * 16 + d)

/-- Whether a code unit is the first half of a surrogate pair. -/
def isHighSurrogate (unit : Nat) : Bool :=
  0xd800 ≤ unit && unit < 0xdc00

/-- Whether a code unit is the second half of a surrogate pair. -/
def isLowSurrogate (unit : Nat) : Bool :=
  0xdc00 ≤ unit && unit < 0xe000

/-- What a one-letter escape stands for. -/
def simpleEscape? (letter : Char) : Option Char :=
  match letter with
  | '\x22' => some '\x22'
  | '\x5c' => some '\x5c'
  | '/' => some '/'
  | 'b' => some '\x08'
  | 'f' => some '\x0c'
  | 'n' => some '\n'
  | 'r' => some '\r'
  | 't' => some '\t'
  | _ => none

/-- Puts a character before a string that was read. -/
def prepend (character : Char) (reading : Except Malformed (List Char × List Char)) :
    Except Malformed (List Char × List Char) :=
  reading.map fun (characters, rest) => (character :: characters, rest)

/-- The characters of a string up to its closing quote. -/
def readCharacters : List Char → Except Malformed (List Char × List Char)
  | [] => stopAt []
  | '\x22' :: rest => .ok ([], rest)
  | '\x5c' :: 'u' :: a :: b :: c :: d :: rest =>
      match hexQuad? a b c d with
      | none => stopAt (a :: b :: c :: d :: rest)
      | some unit =>
          if isHighSurrogate unit then
            match rest with
            | '\x5c' :: 'u' :: e :: f :: g :: h :: rest =>
                match hexQuad? e f g h with
                | none => stopAt (e :: f :: g :: h :: rest)
                | some low =>
                    if isLowSurrogate low then
                      prepend
                        (Char.ofNat (0x10000 + (unit - 0xd800) * 0x400 + (low - 0xdc00)))
                        (readCharacters rest)
                    else stopAt rest
            | rest => stopAt rest
          else if isLowSurrogate unit then stopAt rest
          else prepend (Char.ofNat unit) (readCharacters rest)
  | '\x5c' :: letter :: rest =>
      match simpleEscape? letter with
      | some character => prepend character (readCharacters rest)
      | none => stopAt (letter :: rest)
  | character :: rest =>
      if character = '\x5c' ∨ character.toNat < 32 then stopAt (character :: rest)
      else prepend character (readCharacters rest)

mutual

/-- A value, after any blanks.  `fuel` bounds the steps and `depth` the containers
that may still be opened. -/
def readValue : (fuel depth : Nat) → List Char → Except Malformed (Document × List Char)
  | 0, _, text => stopAt text
  | fuel + 1, depth, text =>
      match skipBlanks text with
      | 'n' :: 'u' :: 'l' :: 'l' :: rest => .ok (.null, rest)
      | 't' :: 'r' :: 'u' :: 'e' :: rest => .ok (.bool true, rest)
      | 'f' :: 'a' :: 'l' :: 's' :: 'e' :: rest => .ok (.bool false, rest)
      | '\x22' :: rest => do
          let (characters, rest) ← readCharacters rest
          .ok (.string (String.ofList characters), rest)
      | '-' :: rest => readNumber true rest
      | '[' :: rest =>
          match depth with
          | 0 => stopAt rest
          | depth + 1 =>
              match skipBlanks rest with
              | ']' :: rest => .ok (.array [], rest)
              | rest => do
                  let (items, rest) ← readItems fuel depth rest
                  .ok (.array items, rest)
      | '\x7b' :: rest =>
          match depth with
          | 0 => stopAt rest
          | depth + 1 =>
              match skipBlanks rest with
              | '\x7d' :: rest => .ok (.object [], rest)
              | rest => do
                  let (members, rest) ← readMembers fuel depth rest
                  .ok (ofMembers members, rest)
      | rest => readNumber false rest

/-- The items of an array up to its closing bracket. -/
def readItems : (fuel depth : Nat) → List Char →
    Except Malformed (List Document × List Char)
  | 0, _, text => stopAt text
  | fuel + 1, depth, text => do
      let (item, rest) ← readValue fuel depth text
      match skipBlanks rest with
      | ']' :: rest => .ok ([item], rest)
      | ',' :: rest => do
          let (items, rest) ← readItems fuel depth rest
          .ok (item :: items, rest)
      | rest => stopAt rest

/-- The members of an object up to its closing brace. -/
def readMembers : (fuel depth : Nat) → List Char →
    Except Malformed (List (String × Document) × List Char)
  | 0, _, text => stopAt text
  | fuel + 1, depth, text =>
      match skipBlanks text with
      | '\x22' :: rest => do
          let (name, rest) ← readCharacters rest
          match skipBlanks rest with
          | ':' :: rest => do
              let (value, rest) ← readValue fuel depth rest
              let member := (String.ofList name, value)
              match skipBlanks rest with
              | '\x7d' :: rest => .ok ([member], rest)
              | ',' :: rest => do
                  let (members, rest) ← readMembers fuel depth rest
                  .ok (member :: members, rest)
              | rest => stopAt rest
          | rest => stopAt rest
      | rest => stopAt rest

end

/-- Containers nest at most this deep in text. -/
def nestingLimit : Nat := 127

/-- The document that a whole text is, with containers nested to at most
`depth`. -/
def readNested (depth : Nat) (text : List Char) : Except Malformed Document := do
  let (document, rest) ← readValue (2 * text.length + 2) depth text
  match skipBlanks rest with
  | [] => .ok document
  | rest => stopAt rest

def read (text : String) : Except Malformed Document :=
  readNested nestingLimit text.toList

/-- Line and column, both from one, where reading stopped. -/
def Malformed.position (malformed : Malformed) (text : String) : Nat × Nat :=
  let characters := text.toList
  let before := characters.take (characters.length - malformed.unread)
  let line := before.count '\n' + 1
  let column := (before.reverse.takeWhile (· ≠ '\n')).length + 1
  (line, column)

/-- What is wrong with a text that is no document, and where. -/
def Malformed.message (malformed : Malformed) (text : String) : String :=
  let (line, column) := malformed.position text
  s!"not a document at line {line} column {column}"

end Document

end StatesLanguage
