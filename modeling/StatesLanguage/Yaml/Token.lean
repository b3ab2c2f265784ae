import StatesLanguage.Text.Digit
import StatesLanguage.Yaml.Character

/-!
# YAML tokens

The tokens of a text.  Indentation shows as `blockSequence`, `blockMapping` and
`blockEnd`, so that the nodes of a text can be read without looking at columns.  This
module also reads the tokens that start with a percent sign, an ampersand, an asterisk
or an exclamation mark.
-/

namespace StatesLanguage

namespace Yaml

/-- A token.  The parts of a tag are a handle, which a directive may expand, and the
text after it; a verbatim tag has the empty handle. -/
inductive Token where
  | version (major minor : Nat)
  | expansion (handle expanded : String)
  | documentStart
  | documentEnd
  | blockSequence
  | blockMapping
  | blockEnd
  | flowSequence
  | flowSequenceEnd
  | flowMapping
  | flowMappingEnd
  | blockEntry
  | flowEntry
  | key
  | value
  | alias (name : String)
  | anchor (name : String)
  | tag (handle rest : String)
  | scalar (plain : Bool) (text : String)
  deriving DecidableEq, Repr

/-- Reads the name of an anchor or an alias, which ends before a blank or one of a few
indicators. -/
def readAnchorName? (text : List Placed) : Option (String × List Placed) :=
  let (name, rest) := spanPlaced isNameCharacter text
  if !name.isEmpty &&
      (wordEnds rest ||
        startsWithOneOf ['?', ':', ',', ']', '\x7d', '%', '@', '\x60'] rest) then
    some (String.ofList name, rest)
  else none

/-- Reads an exclamation mark, a name, and the exclamation mark that may close the
handle. -/
def readHandle? (text : List Placed) : Option (List Char × List Placed) :=
  match text with
  | [] => none
  | first :: afterFirst =>
      if first.char = '!' then
        let (name, afterName) := spanPlaced isNameCharacter afterFirst
        if startsWithOneOf ['!'] afterName then
          some ('!' :: name ++ ['!'], afterName.drop 1)
        else some ('!' :: name, afterName)
      else none

/-- Whether a handle is more than an exclamation mark and closed by one. -/
def isClosedHandle (handle : List Char) : Bool :=
  2 ≤ handle.length && handle.getLast? = some '!'

/-- The characters of a tag, besides escaped ones; those of a verbatim tag or of an
expansion are a few more. -/
def isTagCharacter (verbatim : Bool) (character : Char) : Bool :=
  isNameCharacter character ||
    [';', '/', '?', ':', '@', '&', '=', '+', '$', '.', '!', '~', '*', '\x27', '(',
      ')'].contains character ||
    (verbatim && [',', '[', ']'].contains character)

/-- How many octets follow the first one of an encoded character. -/
def followingOctets? (octet : Nat) : Option Nat :=
  if octet < 0x80 then some 0
  else if 0xc0 ≤ octet ∧ octet < 0xe0 then some 1
  else if 0xe0 ≤ octet ∧ octet < 0xf0 then some 2
  else if 0xf0 ≤ octet ∧ octet < 0xf8 then some 3
  else none

/-- The octets still to come after one, where `owed` were to come before it. -/
def owedAfter? (owed octet : Nat) : Option Nat :=
  match owed with
  | 0 => followingOctets? octet
  | owed + 1 => if 0x80 ≤ octet ∧ octet < 0xc0 then some owed else none

/-- The characters of a tag.  A percent sign and two digits are an octet, which stands
for itself; octets above 127 must be whole encoded characters, of which `owed` octets
are still to come. -/
def readTagText? (verbatim : Bool) :
    (owed : Nat) → List Placed → Option (List Char × List Placed)
  | owed, [] => if owed = 0 then some ([], []) else none
  | owed, next :: rest =>
      if next.char = '%' then
        match rest with
        | high :: low :: rest => do
            let high ← Text.hexDigit? high.char
            let low ← Text.hexDigit? low.char
            let octet := 16 * high + low
            let owed ← owedAfter? owed octet
            let (characters, rest) ← readTagText? verbatim owed rest
            some (Char.ofNat octet :: characters, rest)
        | _ => none
      else if owed ≠ 0 then none
      else if isTagCharacter verbatim next.char then
        (readTagText? verbatim 0 rest).map fun (characters, rest) =>
          (next.char :: characters, rest)
      else some ([], next :: rest)

/-- The characters of a tag, at least one. -/
def readSomeTagText? (verbatim : Bool) (text : List Placed) :
    Option (List Char × List Placed) := do
  let (characters, rest) ← readTagText? verbatim 0 text
  if characters.isEmpty then none else some (characters, rest)

/-- Reads a verbatim tag after its exclamation mark and angle bracket. -/
def readVerbatimTag? (text : List Placed) : Option (Token × List Placed) := do
  let (characters, rest) ← readSomeTagText? true text
  if startsWithOneOf ['>'] rest then
    some (.tag "" (String.ofList characters), rest.drop 1)
  else none

/-- Reads a tag with a handle.  A handle that nothing closes is the start of a local
tag; an exclamation mark alone is a tag of its own. -/
def readShorthandTag? (text : List Placed) : Option (Token × List Placed) := do
  let (handle, afterHandle) ← readHandle? text
  if isClosedHandle handle then
    let (characters, rest) ← readSomeTagText? false afterHandle
    some (.tag (String.ofList handle) (String.ofList characters), rest)
  else
    let (characters, rest) ← readTagText? false 0 afterHandle
    match handle.drop 1 ++ characters with
    | [] => some (.tag "" "!", rest)
    | suffix => some (.tag "!" (String.ofList suffix), rest)

/-- Reads a tag, which a blank must follow or, between brackets, a comma. -/
def readTag? (flow : Bool) (text : List Placed) : Option (Token × List Placed) := do
  let (token, rest) ←
    if startsWithOneOf ['<'] (text.drop 1) then readVerbatimTag? (text.drop 2)
    else readShorthandTag? text
  if wordEnds rest || (flow && startsWithOneOf [','] rest) then some (token, rest)
  else none

/-- Reads a number of at most nine digits. -/
def readVersionNumber? (text : List Placed) : Option (Nat × List Placed) :=
  let (digits, rest) := spanPlaced Char.isDigit text
  if digits.isEmpty || 9 < digits.length then none
  else some (digits.foldl (fun value digit => 10 * value + (digit.toNat - 48)) 0, rest)

/-- Reads the two numbers of a version directive. -/
def readVersion? (text : List Placed) : Option (Token × List Placed) := do
  let (major, afterMajor) ← readVersionNumber? (skipBlanks text)
  if startsWithOneOf ['.'] afterMajor then
    let (minor, rest) ← readVersionNumber? (afterMajor.drop 1)
    some (.version major minor, rest)
  else none

/-- Reads the handle and the expansion of a tag directive. -/
def readExpansion? (text : List Placed) : Option (Token × List Placed) := do
  let (handle, afterHandle) ← readHandle? (skipBlanks text)
  if (handle = ['!'] || isClosedHandle handle) &&
      startsWithOneOf [' ', '\t'] afterHandle then
    let (characters, rest) ← readSomeTagText? true (skipBlanks afterHandle)
    if wordEnds rest then
      some (.expansion (String.ofList handle) (String.ofList characters), rest)
    else none
  else none

/-- Reads a directive after its percent sign, with the rest of its line. -/
def readDirective? (text : List Placed) : Option (Token × List Placed) := do
  let (name, afterName) := spanPlaced isNameCharacter text
  if wordEnds afterName then
    let (token, afterToken) ←
      if name = ['Y', 'A', 'M', 'L'] then readVersion? afterName
      else if name = ['T', 'A', 'G'] then readExpansion? afterName
      else none
    let rest ← finishLine? afterToken
    some (token, rest)
  else none

end Yaml

end StatesLanguage
