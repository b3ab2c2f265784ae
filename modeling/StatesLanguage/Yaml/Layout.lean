import StatesLanguage.Yaml.Block
import StatesLanguage.Yaml.Flow
import StatesLanguage.Yaml.Token

/-!
# Layout of a text into tokens

Block collections have no brackets: they start where an entry or a key stands at a
column further right than the collection around it, and end where a token stands
further left.  Whether a scalar is a key shows only at the colon behind it, so the
start of a possible key is kept, on the same line and for at most 1024 characters, and
the colon puts the tokens before it.  The colon must follow a scalar that stands where
only a key can.
-/

namespace StatesLanguage

namespace Yaml

/-- The start of what a colon may turn out to make a key: the number of tokens before
it and its place.  A required one must turn out to be a key. -/
structure PossibleKey where
  position : Nat
  line : Nat
  column : Nat
  required : Bool
  deriving DecidableEq, Repr

/-- How far a text has been laid out.  The columns are those of the open block
collections, the innermost first; `outerKeys` has an entry for each open bracket. -/
structure Layout where
  tokens : Array Token
  columns : List Nat
  possibleKey : Option PossibleKey
  outerKeys : List (Option PossibleKey)
  keyAllowed : Bool

namespace Layout

/-- Nothing is laid out yet. -/
def empty : Layout := ⟨#[], [], none, [], true⟩

def inFlow (layout : Layout) : Bool :=
  !layout.outerKeys.isEmpty

/-- The first column that belongs to a part of the innermost block collection. -/
def innerColumn (layout : Layout) : Nat :=
  match layout.columns with
  | [] => 0
  | column :: _ => column + 1

def push (layout : Layout) (token : Token) : Layout :=
  { layout with tokens := layout.tokens.push token }

/-- Says whether a key may follow. -/
def allowKey (allowed : Bool) (layout : Layout) : Layout :=
  { layout with keyAllowed := allowed }

/-- Ends the block collections that do not belong around a column; brackets keep them
open. -/
def closeFrom (encloses : Nat → Bool) (layout : Layout) : Layout :=
  if layout.inFlow then layout
  else
    let closed := layout.columns.takeWhile (!encloses ·)
    { layout with
      columns := layout.columns.dropWhile (!encloses ·)
      tokens := closed.foldl (fun tokens _ => tokens.push .blockEnd) layout.tokens }

/-- Starts a block collection before the token of that number, if the column lies
further right than the collection around it. -/
def openAt (position column : Nat) (start : Token) (layout : Layout) : Layout :=
  if !layout.inFlow && layout.innerColumn ≤ column then
    { layout with
      columns := column :: layout.columns
      tokens := layout.tokens.insertIdxIfInBounds position start }
  else layout

/-- Starts a block collection before the next token. -/
def openHere (column : Nat) (start : Token) (layout : Layout) : Layout :=
  layout.openAt layout.tokens.size column start

/-- Gives up a possible key; a required one cannot be given up. -/
def dropKey? (layout : Layout) : Option Layout :=
  if layout.possibleKey.any (·.required) then none
  else some { layout with possibleKey := none }

/-- Notes that a key may start with the next token. -/
def noteKey? (start : Placed) (layout : Layout) : Option Layout :=
  if layout.keyAllowed then do
    let layout ← layout.dropKey?
    let required := !layout.inFlow && layout.columns.head? = some start.column
    some { layout with
      possibleKey := some ⟨layout.tokens.size, start.line, start.column, required⟩ }
  else some layout

/-- Whether a possible key is too far back from a place. -/
def isStale (here : Placed) (key : PossibleKey) : Bool :=
  key.line < here.line || key.column + 1024 < here.column

/-- Without a possible key that is too far back, unless it was required. -/
def refresh? (here : Placed) : Option PossibleKey → Option (Option PossibleKey)
  | none => some none
  | some key =>
      if isStale here key then
        if key.required then none else some none
      else some (some key)

/-- Gives up all possible keys that are too far back. -/
def refreshKeys? (here : Placed) (layout : Layout) : Option Layout := do
  let possibleKey ← refresh? here layout.possibleKey
  let outerKeys ← layout.outerKeys.mapM (refresh? here)
  some { layout with possibleKey, outerKeys }

def openFlow? (start : Placed) (bracket : Token) (layout : Layout) : Option Layout := do
  let layout ← layout.noteKey? start
  some { layout with
    outerKeys := layout.possibleKey :: layout.outerKeys
    possibleKey := none
    keyAllowed := true
    tokens := layout.tokens.push bracket }

/-- Closes a bracket; one that closes nothing changes no level. -/
def closeFlow? (bracket : Token) (layout : Layout) : Option Layout := do
  let layout ← layout.dropKey?
  let layout := (layout.allowKey false).push bracket
  match layout.outerKeys with
  | [] => some layout
  | key :: outerKeys => some { layout with possibleKey := key, outerKeys }

/-- Lays out a token that stands alone at the start of a line, outside of all block
collections. -/
def pushTopLevel? (token : Token) (layout : Layout) : Option Layout := do
  let layout ← (layout.closeFrom fun _ => false).dropKey?
  some ((layout.allowKey false).push token)

def pushEntry? (start : Placed) (layout : Layout) : Option Layout :=
  if layout.inFlow || layout.keyAllowed then do
    let layout ← (layout.openHere start.column .blockSequence).dropKey?
    some ((layout.allowKey true).push .blockEntry)
  else none

def pushKey? (start : Placed) (layout : Layout) : Option Layout :=
  if layout.inFlow || layout.keyAllowed then do
    let layout ← (layout.openHere start.column .blockMapping).dropKey?
    some ((layout.allowKey (!layout.inFlow)).push .key)
  else none

/-- Lays out the colon of a value.  A possible key becomes one, and its mapping starts
before it. -/
def pushValue? (start : Placed) (layout : Layout) : Option Layout :=
  match layout.possibleKey with
  | some key =>
      let keyed := { layout with
        tokens := layout.tokens.insertIdxIfInBounds key.position .key
        possibleKey := none }
      some (((keyed.openAt key.position key.column .blockMapping).allowKey false).push
        .value)
  | none =>
      if layout.inFlow || layout.keyAllowed then
        let layout := layout.openHere start.column .blockMapping
        some ((layout.allowKey (!layout.inFlow)).push .value)
      else none

/-- Lays out a token that may start a key. -/
def pushKeyStart? (start : Placed) (token : Token) (layout : Layout) : Option Layout := do
  let layout ← layout.noteKey? start
  some ((layout.allowKey false).push token)

/-- The text from the next token on, and whether a key may start it.  Outside of
brackets a tab may not stand where a key could start. -/
def skipToToken (flow : Bool) : (keyAllowed inComment : Bool) → List Placed →
    Bool × List Placed
  | keyAllowed, _, [] => (keyAllowed, [])
  | keyAllowed, inComment, next :: rest =>
      if isBreak next.char then skipToToken flow (keyAllowed || !flow) false rest
      else if inComment then skipToToken flow keyAllowed true rest
      else if next.char = ' ' || (next.char = '\t' && (flow || !keyAllowed)) then
        skipToToken flow keyAllowed false rest
      else if next.char = '#' then skipToToken flow keyAllowed true rest
      else (keyAllowed, next :: rest)

/-- The characters that start no plain scalar. -/
def indicators : List Char :=
  ['-', '?', ':', ',', '[', ']', '\x7b', '\x7d', '#', '&', '*', '!', '|', '>', '\x27',
    '\x22', '%', '@', '\x60']

/-- Whether a plain scalar starts here: not with an indicator, but with a hyphen that no
blank follows or, outside of brackets, with such a question mark or colon. -/
def startsPlain (flow : Bool) (start : Placed) (rest : List Placed) : Bool :=
  !(isBlank start.char || isBreak start.char || indicators.contains start.char) ||
    (start.char = '-' && !startsWithOneOf [' ', '\t'] rest) ||
    (!flow && (start.char = '?' || start.char = ':') && !wordEnds rest)

def pushPlain? (start : Placed) (rest : List Placed) (layout : Layout) :
    Option (Layout × List Placed) := do
  let reading ← readPlain layout.inFlow layout.innerColumn Gap.empty (start :: rest)
  let layout ← layout.pushKeyStart? start (.scalar true (String.ofList reading.text))
  some (layout.allowKey reading.endsLine, reading.rest)

def pushQuoted? (start : Placed) (reading : Option (List Char × List Placed))
    (layout : Layout) : Option (Layout × List Placed) := do
  let (text, rest) ← reading
  let layout ← layout.pushKeyStart? start (.scalar false (String.ofList text))
  some (layout, rest)

def pushBlock? (folded : Bool) (rest : List Placed) (layout : Layout) :
    Option (Layout × List Placed) := do
  let layout ← layout.dropKey?
  let (text, rest) ← readBlock? folded layout.innerColumn rest
  some ((layout.allowKey true).push (.scalar false (String.ofList text)), rest)

def pushAnchor? (start : Placed) (token : String → Token) (rest : List Placed)
    (layout : Layout) : Option (Layout × List Placed) := do
  let (name, rest) ← readAnchorName? rest
  let layout ← layout.pushKeyStart? start (token name)
  some (layout, rest)

def pushTag? (start : Placed) (rest : List Placed) (layout : Layout) :
    Option (Layout × List Placed) := do
  let (token, rest) ← readTag? layout.inFlow (start :: rest)
  let layout ← layout.pushKeyStart? start token
  some (layout, rest)

def pushDirective? (rest : List Placed) (layout : Layout) :
    Option (Layout × List Placed) := do
  let (token, rest) ← readDirective? rest
  let layout ← layout.pushTopLevel? token
  some (layout, rest)

/-- Pairs a layout with the text after a token that was laid out. -/
def before (rest : List Placed) (layout : Option Layout) :
    Option (Layout × List Placed) :=
  layout.map (·, rest)

/-- Lays out the token that starts here. -/
def pushToken? (start : Placed) (rest : List Placed) (layout : Layout) :
    Option (Layout × List Placed) :=
  if start.column = 0 ∧ start.char = '%' then layout.pushDirective? rest
  else if isDocumentMark '-' (start :: rest) then
    before (rest.drop 2) (layout.pushTopLevel? .documentStart)
  else if isDocumentMark '.' (start :: rest) then
    before (rest.drop 2) (layout.pushTopLevel? .documentEnd)
  else
    let flow := layout.inFlow
    match start.char with
    | '[' => before rest (layout.openFlow? start .flowSequence)
    | '\x7b' => before rest (layout.openFlow? start .flowMapping)
    | ']' => before rest (layout.closeFlow? .flowSequenceEnd)
    | '\x7d' => before rest (layout.closeFlow? .flowMappingEnd)
    | ',' => before rest (layout.dropKey?.map fun layout =>
        (layout.allowKey true).push .flowEntry)
    | '*' => layout.pushAnchor? start .alias rest
    | '&' => layout.pushAnchor? start .anchor rest
    | '!' => layout.pushTag? start rest
    | '\x27' => layout.pushQuoted? start (readSingleQuoted Gap.empty rest)
    | '\x22' => layout.pushQuoted? start (readDoubleQuoted Gap.empty .text rest)
    | character =>
        if character = '-' ∧ wordEnds rest then before rest (layout.pushEntry? start)
        else if character = '?' ∧ (flow ∨ wordEnds rest) then
          before rest (layout.pushKey? start)
        else if character = ':' ∧ (flow ∨ wordEnds rest) then
          before rest (layout.pushValue? start)
        else if (character = '|' ∨ character = '>') ∧ !flow then
          layout.pushBlock? (character = '>') rest
        else if startsPlain flow start rest then layout.pushPlain? start rest
        else none

/-- Lays out the rest of a text.  Each step takes a character at least, so the length
of the text is fuel enough. -/
def run? : (fuel : Nat) → Layout → List Placed → Option Layout
  | 0, _, _ => none
  | fuel + 1, layout, text =>
      let (keyAllowed, text) := skipToToken layout.inFlow layout.keyAllowed false text
      let layout := layout.allowKey keyAllowed
      match text with
      | [] =>
          if (layout.possibleKey :: layout.outerKeys).any (·.any (·.required)) then none
          else some (layout.closeFrom fun _ => false)
      | start :: rest =>
          match layout.refreshKeys? start with
          | none => none
          | some layout =>
              match (layout.closeFrom (· ≤ start.column)).pushToken? start rest with
              | none => none
              | some (layout, rest) => run? fuel layout rest

end Layout

def tokens? (text : String) : Option (List Token) := do
  let characters ← placed? text
  let layout ← Layout.empty.run? (characters.length + 1) characters
  some layout.tokens.toList

end Yaml

end StatesLanguage
