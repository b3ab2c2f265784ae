import StatesLanguage.Toml.Scalar
import StatesLanguage.Toml.Table
import StatesLanguage.Toml.Text

/-!
# Reading TOML

A text is a list of statements, one a line: a key with its value, or the header of the
table that the keys below it belong to.  The result is the document that the whole
table makes.
-/

namespace StatesLanguage

namespace Toml

mutual

/-- Reads a value, in which arrays and tables in braces may nest `depth` deep. -/
def readValue? : (fuel depth : Nat) → List Char → Option (Document × List Char)
  | 0, _, _ => none
  | fuel + 1, depth, text =>
      match text with
      | '[' :: rest =>
          match depth with
          | 0 => none
          | depth + 1 => do
              let (items, rest) ← readItems? fuel depth rest
              some (.array items, rest)
      | '\x7b' :: rest =>
          match depth with
          | 0 => none
          | depth + 1 =>
              match skipBlanks rest with
              | '\x7d' :: rest => some (Document.empty, rest)
              | rest => do
                  let (entries, rest) ← readMembers? fuel depth [] rest
                  some (Document.ofMembers (entriesDocuments entries), rest)
      | '\x22' :: _ | '\x27' :: _ => do
          let (characters, rest) ← readString? text
          some (.string (String.ofList characters), rest)
      | text => do
          let (word, rest) := takeScalar text
          let value ← scalar? word
          some (value, rest)

/-- Reads the items of an array and its closing bracket; a comma may follow the last
item. -/
def readItems? : (fuel depth : Nat) → List Char → Option (List Document × List Char)
  | 0, _, _ => none
  | fuel + 1, depth, text => do
      match ← skipLines? (text.length + 1) text with
      | ']' :: rest => some ([], rest)
      | rest => do
          let (item, rest) ← readValue? fuel depth rest
          match ← skipLines? (rest.length + 1) rest with
          | ']' :: rest => some ([item], rest)
          | ',' :: rest => do
              let (items, rest) ← readItems? fuel depth rest
              some (item :: items, rest)
          | _ => none

/-- Reads the members of a table in braces, after those that came before them, and its
closing brace. -/
def readMembers? : (fuel depth : Nat) → Entries → List Char →
    Option (Entries × List Char)
  | 0, _, _, _ => none
  | fuel + 1, depth, entries, text => do
      let (key, rest) ← readKey? text
      match rest with
      | '=' :: rest => do
          let (value, rest) ← readValue? fuel depth (skipBlanks rest)
          let entries ← define? key value entries
          match skipBlanks rest with
          | '\x7d' :: rest => some (entries, rest)
          | ',' :: rest => readMembers? fuel depth entries rest
          | _ => none
      | _ => none

end

/-- Arrays and tables in braces nest at most this deep. -/
def nestingLimit : Nat := 79

/-- The table so far, and the header above the next statement. -/
structure Progress where
  entries : Entries
  header : List String

/-- Opens the table of a header, or one more table if the brackets are double. -/
def openHeader? (double : Bool) (key : List String) (progress : Progress) :
    Option Progress := do
  let name ← key.getLast?
  let action := if double then openItem? name else openTable? name
  let entries ← change? action key.dropLast progress.entries
  some ⟨entries, key⟩

/-- Reads a header after its first bracket. -/
def readHeader? (progress : Progress) (text : List Char) :
    Option (Progress × List Char) :=
  match text with
  | '[' :: text => do
      match ← readKey? text with
      | (key, ']' :: ']' :: rest) => do
          let progress ← openHeader? true key progress
          some (progress, ← finishLine? rest)
      | _ => none
  | text => do
      match ← readKey? text with
      | (key, ']' :: rest) => do
          let progress ← openHeader? false key progress
          some (progress, ← finishLine? rest)
      | _ => none

/-- Reads a key and its value. -/
def readDefinition? (progress : Progress) (text : List Char) :
    Option (Progress × List Char) := do
  match ← readKey? text with
  | (key, '=' :: rest) => do
      let (value, rest) ← readValue? (2 * text.length + 2) nestingLimit (skipBlanks rest)
      let entries ← change? (define? key value) progress.header progress.entries
      some (⟨entries, progress.header⟩, ← finishLine? rest)
  | _ => none

/-- Reads all statements; each takes a line, so the length of the text is fuel
enough. -/
def readStatements? : (fuel : Nat) → Progress → List Char → Option Entries
  | 0, _, _ => none
  | fuel + 1, progress, text => do
      match ← skipLines? (text.length + 1) text with
      | [] => some progress.entries
      | '[' :: rest => do
          let (progress, rest) ← readHeader? progress rest
          readStatements? fuel progress rest
      | rest => do
          let (progress, rest) ← readDefinition? progress rest
          readStatements? fuel progress rest

/-- The document that a text writes.  A byte order mark at its start does not
count. -/
def read? (text : String) : Option Document := do
  let characters :=
    match text.toList with
    | '\ufeff' :: rest => rest
    | characters => characters
  let entries ← readStatements? (characters.length + 1) ⟨[], []⟩ characters
  some (Document.ofMembers (entriesDocuments entries))

end Toml

end StatesLanguage
