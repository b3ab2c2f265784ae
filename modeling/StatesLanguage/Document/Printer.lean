import StatesLanguage.Document

/-!
# Document text

`Document.compact` writes a document without blanks and `Document.indented` writes
one member or item per line, two blanks deeper than its container.  Both write the
members of an object in the order in which it lists them.
-/

namespace StatesLanguage

namespace Document

/-- A hexadecimal digit, lower case. -/
def hexDigit (value : Nat) : Char :=
  Nat.digitChar value

/-- A character inside a quoted string: the quote, the backslash and the control
characters are escaped, everything else stands for itself. -/
def escape (character : Char) : List Char :=
  if character = '\x22' then ['\x5c', '\x22']
  else if character = '\x5c' then ['\x5c', '\x5c']
  else if character = '\x08' then ['\x5c', 'b']
  else if character = '\x0c' then ['\x5c', 'f']
  else if character = '\n' then ['\x5c', 'n']
  else if character = '\r' then ['\x5c', 'r']
  else if character = '\t' then ['\x5c', 't']
  else if character.toNat < 32 then
    ['\x5c', 'u', '0', '0', hexDigit (character.toNat / 16), hexDigit (character.toNat % 16)]
  else [character]

def quoted (text : String) : List Char :=
  '\x22' :: text.toList.flatMap escape ++ ['\x22']

def boolText (value : Bool) : List Char :=
  if value then ['t', 'r', 'u', 'e'] else ['f', 'a', 'l', 's', 'e']

def nullText : List Char :=
  ['n', 'u', 'l', 'l']

mutual

/-- Text without blanks. -/
def compactText : Document → List Char
  | .null => nullText
  | .bool value => boolText value
  | .number value => value.text
  | .string value => quoted value
  | .array items => '[' :: compactItems items ++ [']']
  | .object members => '\x7b' :: compactMembers members ++ ['\x7d']

def compactItems : List Document → List Char
  | [] => []
  | [item] => compactText item
  | item :: rest => compactText item ++ ',' :: compactItems rest

/-- Members separated by commas, each name and value by a colon. -/
def compactMembers : List (String × Document) → List Char
  | [] => []
  | [(name, value)] => quoted name ++ ':' :: compactText value
  | (name, value) :: rest =>
      quoted name ++ ':' :: compactText value ++ ',' :: compactMembers rest

end

/-- Text without blanks. -/
def compact (document : Document) : String :=
  String.ofList document.compactText

/-- A line break and the blanks that start a line at some depth. -/
def newline (depth : Nat) : List Char :=
  '\n' :: List.replicate (2 * depth) ' '

mutual

/-- Text with one item or member per line; an empty container stays on one line. -/
def indentedText (depth : Nat) : Document → List Char
  | .null => nullText
  | .bool value => boolText value
  | .number value => value.text
  | .string value => quoted value
  | .array [] => ['[', ']']
  | .array items => '[' :: indentedItems (depth + 1) items ++ newline depth ++ [']']
  | .object [] => ['\x7b', '\x7d']
  | .object members =>
      '\x7b' :: indentedMembers (depth + 1) members ++ newline depth ++ ['\x7d']

/-- Items on lines of their own, separated by commas. -/
def indentedItems (depth : Nat) : List Document → List Char
  | [] => []
  | [item] => newline depth ++ indentedText depth item
  | item :: rest =>
      newline depth ++ indentedText depth item ++ ',' :: indentedItems depth rest

/-- Members on lines of their own, separated by commas. -/
def indentedMembers (depth : Nat) : List (String × Document) → List Char
  | [] => []
  | [(name, value)] =>
      newline depth ++ quoted name ++ ':' :: ' ' :: indentedText depth value
  | (name, value) :: rest =>
      newline depth ++ quoted name ++ ':' :: ' ' :: indentedText depth value ++
        ',' :: indentedMembers depth rest

end

/-- Text with one item or member per line. -/
def indented (document : Document) : String :=
  String.ofList (document.indentedText 0)

end Document

end StatesLanguage
