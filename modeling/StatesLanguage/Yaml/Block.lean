import StatesLanguage.Yaml.Character

/-!
# Block scalars

A block scalar is the lines below its header that are indented enough.  The header may
say how the last line ends count and how deep the lines are indented; without that the
deepest of the lines up to the first one with text sets the depth.  A folded scalar
joins neighbouring lines that do not start with a blank.
-/

namespace StatesLanguage

namespace Yaml

/-- What becomes of the line ends that close a block scalar: all go, one stays, or all
stay. -/
inductive Chomping where
  | strip
  | clip
  | keep
  deriving DecidableEq, Repr

/-- What a header says: the chomping, and how much deeper than its parent the text is
indented, where zero means that the lines show it. -/
structure BlockHeader where
  chomping : Chomping
  depth : Nat
  deriving DecidableEq, Repr

/-- The chomping of a text that starts with a chomping indicator, and the rest. -/
def readChomping : List Placed → Chomping × List Placed
  | [] => (.clip, [])
  | next :: rest =>
      if next.char = '+' then (.keep, rest)
      else if next.char = '-' then (.strip, rest)
      else (.clip, next :: rest)

/-- The depth of a text that starts with a depth indicator, which must not be zero,
and the rest. -/
def readDepth? : List Placed → Option (Nat × List Placed)
  | [] => some (0, [])
  | next :: rest =>
      if next.char = '0' then none
      else if next.char.isDigit then some (next.char.toNat - 48, rest)
      else some (0, next :: rest)

/-- Reads a header, with its two indicators in either order, to the end of its
line. -/
def readBlockHeader? (text : List Placed) : Option (BlockHeader × List Placed) := do
  let (first, afterFirst) := readChomping text
  let (depth, afterDepth) ← readDepth? afterFirst
  let (chomping, afterBoth) :=
    if first = .clip ∧ depth ≠ 0 then readChomping afterDepth else (first, afterDepth)
  let rest ← finishLine? afterBoth
  some (⟨chomping, depth⟩, rest)

/-- The lines of a text, each with the break that ends it. -/
def splitLines : List Placed → List (List Placed)
  | [] => []
  | next :: rest =>
      if isBreak next.char then [next] :: splitLines rest
      else
        match splitLines rest with
        | [] => [[next]]
        | line :: lines => (next :: line) :: lines

/-- The depth that lines show: that of the deepest line up to the first one with text,
and at least the given one.  A tab may not stand in the indentation. -/
def shownDepth? (least : Nat) : List (List Placed) → Option Nat
  | [] => some least
  | line :: rest =>
      let (spaces, text) := spanPlaced (· = ' ') line
      let depth := max least spaces.length
      match text with
      | [] => some depth
      | next :: _ =>
          if next.char = '\t' then none
          else if isBreak next.char then shownDepth? depth rest
          else some depth

/-- A line of a block scalar: a line end alone, or text and the line end behind it. -/
inductive BlockLine where
  | empty (ending : Char)
  | text (characters ending : List Char)
  deriving DecidableEq, Repr

/-- A line without so many of its leading spaces, and how many it lacks. -/
def dropIndentation : Nat → List Placed → Nat × List Placed
  | 0, line => (0, line)
  | depth, [] => (depth, [])
  | depth + 1, next :: rest =>
      if next.char = ' ' then dropIndentation depth rest else (depth + 1, next :: rest)

/-- What a line is to a scalar of that depth: malformed if a tab stands in its
indentation, `some none` if the scalar ends before it. -/
def readBlockLine? (depth : Nat) (line : List Placed) : Option (Option BlockLine) :=
  match dropIndentation depth line with
  | (_, []) => some none
  | (lacking, next :: rest) =>
      if isBreak next.char then some (some (.empty next.char))
      else if lacking = 0 then
        let (characters, ending) := spanPlaced (!isBreak ·) (next :: rest)
        some (some (.text characters (ending.map (·.char))))
      else if next.char = '\t' then none
      else some none

/-- The lines of a scalar of that depth, and the text after them. -/
def readBlockLines? (depth : Nat) :
    List (List Placed) → Option (List BlockLine × List Placed)
  | [] => some ([], [])
  | line :: rest =>
      match readBlockLine? depth line with
      | none => none
      | some none => some ([], (line :: rest).flatten)
      | some (some blockLine) =>
          (readBlockLines? depth rest).map fun (lines, text) => (blockLine :: lines, text)

/-- The last line with text: whether it starts with a blank, and its line end. -/
structure LastLine where
  startsBlank : Bool
  ending : List Char

/-- What joins two lines with text that have the given line ends between them. -/
def joinLines (folded : Bool) (last : LastLine) (between : List Char)
    (startsBlank : Bool) : List Char :=
  if folded && last.ending = ['\n'] && !last.startsBlank && !startsBlank then
    if between.isEmpty then [' '] else between
  else last.ending ++ between

/-- The text of lines, after a last line and the line ends since. -/
def blockText (folded : Bool) (chomping : Chomping) :
    LastLine → List Char → List BlockLine → List Char
  | last, between, [] =>
      match chomping with
      | .strip => []
      | .clip => last.ending
      | .keep => last.ending ++ between
  | last, between, .empty ending :: rest =>
      blockText folded chomping last (between ++ [ending]) rest
  | last, between, .text characters ending :: rest =>
      let startsBlank := characters.head?.any isBlank
      joinLines folded last between startsBlank ++ characters ++
        blockText folded chomping ⟨startsBlank, ending⟩ [] rest

/-- Reads a block scalar after its indicator.  Its lines are indented to `indent` at
least, the first column that its parent leaves to it. -/
def readBlock? (folded : Bool) (indent : Nat) (text : List Placed) :
    Option (List Char × List Placed) := do
  let (header, body) ← readBlockHeader? text
  let lines := splitLines body
  let depth ←
    if header.depth = 0 then shownDepth? (max indent 1) lines
    else some (indent - 1 + header.depth)
  let (blockLines, rest) ← readBlockLines? depth lines
  some (blockText folded header.chomping ⟨false, []⟩ [] blockLines, rest)

end Yaml

end StatesLanguage
