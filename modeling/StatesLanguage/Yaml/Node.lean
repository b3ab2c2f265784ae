import StatesLanguage.Yaml.Layout

/-!
# YAML nodes

The tree of scalars, sequences and mappings that tokens write.  A node may carry an
anchor, which aliases refer to by number, and a tag.  A text holds at most one
document.
-/

namespace StatesLanguage

namespace Yaml

/-- What may stand before the content of a node. -/
structure Properties where
  anchor : Option Nat
  tag : Option String
  deriving DecidableEq, Repr

/-- A node; a scalar is plain if it is written without quotes and not as a block. -/
inductive Node where
  | scalar (properties : Properties) (plain : Bool) (text : String)
  | sequence (properties : Properties) (items : List Node)
  | mapping (properties : Properties) (members : List (Node × Node))
  | alias (anchor : Nat)
  deriving Repr

namespace Node

/-- The node where nothing is written. -/
def absent : Node := .scalar ⟨none, none⟩ true ""

/-- What is still to be read: the tokens, and the anchors so far with their
numbers. -/
structure Unread where
  tokens : List Token
  anchors : List (String × Nat)

/-- Tag handles with their expansions. -/
abbrev Expansions := List (String × String)

/-- The expansions without any directive. -/
def defaultExpansions : Expansions := [("!", "!"), ("!!", "tag:yaml.org,2002:")]

/-- A tag with its handle expanded, if the handle is known. -/
def expand? (expansions : Expansions) (handle rest : String) : Option String :=
  if handle = "" then some rest
  else (expansions.lookup handle).map (· ++ rest)

/-- Names an anchor anew.  Its number is how many names there were before, so a name
given again leaves that number to the next new one. -/
def Unread.declare (name : String) (unread : Unread) : Nat × Unread :=
  let number := unread.anchors.length
  let others := unread.anchors.filter (·.1 ≠ name)
  (number, { unread with anchors := (name, number) :: others })

/-- What is unread after so many tokens. -/
def Unread.drop (count : Nat) (unread : Unread) : Unread :=
  { unread with tokens := unread.tokens.drop count }

def readAnchor (unread : Unread) : Option Nat × Unread :=
  match unread.tokens with
  | .anchor name :: _ =>
      let (number, unread) := (unread.drop 1).declare name
      (some number, unread)
  | _ => (none, unread)

def readTag? (expansions : Expansions) (unread : Unread) :
    Option (Option String × Unread) :=
  match unread.tokens with
  | .tag handle rest :: _ =>
      (expand? expansions handle rest).map fun tag => (some tag, unread.drop 1)
  | _ => some (none, unread)

/-- Reads an anchor and a tag in either order. -/
def readProperties? (expansions : Expansions) (unread : Unread) :
    Option (Properties × Unread) := do
  let (first, afterAnchor) := readAnchor unread
  let (tag, afterTag) ← readTag? expansions afterAnchor
  match first, tag with
  | none, some tag =>
      let (anchor, rest) := readAnchor afterTag
      some (⟨anchor, some tag⟩, rest)
  | anchor, tag => some (⟨anchor, tag⟩, afterTag)

/-- Whether one of some tokens comes next. -/
def Unread.startsWithOneOf (choices : List Token) (unread : Unread) : Bool :=
  unread.tokens.head?.any choices.contains

/-- Reads a token that must come next. -/
def Unread.expect? (token : Token) (unread : Unread) : Option Unread :=
  if unread.startsWithOneOf [token] then some (unread.drop 1) else none

/-- What the tokens before a node say about where it stands. -/
structure Position where
  /-- Block collections may start here. -/
  block : Bool
  /-- A sequence may start here without indentation. -/
  hanging : Bool

/-- Between brackets. -/
def Position.flow : Position := ⟨false, false⟩

/-- An item of a block sequence, or a whole document. -/
def Position.item : Position := ⟨true, false⟩

/-- A part of a block mapping. -/
def Position.member : Position := ⟨true, true⟩

mutual

/-- Reads a node, in which collections may nest `depth` deep. -/
def readNode? (expansions : Expansions) : (fuel depth : Nat) → Position → Unread →
    Option (Node × Unread)
  | 0, _, _, _ => none
  | fuel + 1, depth, position, unread =>
      match unread.tokens with
      | .alias name :: _ => do
          let anchor ← unread.anchors.lookup name
          some (.alias anchor, unread.drop 1)
      | _ => do
          let (properties, unread) ← readProperties? expansions unread
          match unread.tokens, depth with
          | .scalar plain text :: _, _ =>
              some (.scalar properties plain text, unread.drop 1)
          | .flowSequence :: _, depth + 1 => do
              let (items, unread) ←
                readFlowItems? expansions fuel depth true (unread.drop 1)
              some (.sequence properties items, unread)
          | .flowMapping :: _, depth + 1 => do
              let (members, unread) ←
                readFlowMembers? expansions fuel depth true (unread.drop 1)
              some (.mapping properties members, unread)
          | token :: _, depth =>
              if token = .blockEntry ∧ position.hanging then
                match depth with
                | 0 => none
                | depth + 1 => do
                    let (items, unread) ← readHangingItems? expansions fuel depth unread
                    some (.sequence properties items, unread)
              else if token = .blockSequence ∧ position.block then
                match depth with
                | 0 => none
                | depth + 1 => do
                    let (items, unread) ←
                      readBlockItems? expansions fuel depth (unread.drop 1)
                    some (.sequence properties items, unread)
              else if token = .blockMapping ∧ position.block then
                match depth with
                | 0 => none
                | depth + 1 => do
                    let (members, unread) ←
                      readBlockMembers? expansions fuel depth (unread.drop 1)
                    some (.mapping properties members, unread)
              else if properties = ⟨none, none⟩ then none
              else some (.scalar properties true "", unread)
          | [], _ =>
              if properties = ⟨none, none⟩ then none
              else some (.scalar properties true "", unread)

/-- Reads a node, or none if one of some tokens comes next. -/
def readNodeUnless? (expansions : Expansions) : (fuel depth : Nat) → List Token →
    Position → Unread → Option (Node × Unread)
  | 0, _, _, _, _ => none
  | fuel + 1, depth, ends, position, unread =>
      if unread.startsWithOneOf ends then some (absent, unread)
      else readNode? expansions fuel depth position unread

/-- Reads the items of a block sequence and its end. -/
def readBlockItems? (expansions : Expansions) : (fuel depth : Nat) → Unread →
    Option (List Node × Unread)
  | 0, _, _ => none
  | fuel + 1, depth, unread =>
      if unread.startsWithOneOf [.blockEnd] then some ([], unread.drop 1)
      else do
        let afterEntry ← unread.expect? .blockEntry
        let (item, afterItem) ←
          readNodeUnless? expansions fuel depth [.blockEntry, .blockEnd] .item afterEntry
        let (items, rest) ← readBlockItems? expansions fuel depth afterItem
        some (item :: items, rest)

/-- Reads the items of a sequence that stands as deep as the mapping around it. -/
def readHangingItems? (expansions : Expansions) : (fuel depth : Nat) → Unread →
    Option (List Node × Unread)
  | 0, _, _ => none
  | fuel + 1, depth, unread =>
      if unread.startsWithOneOf [.blockEntry] then do
        let (item, afterItem) ←
          readNodeUnless? expansions fuel depth [.blockEntry, .key, .value, .blockEnd]
            .item (unread.drop 1)
        let (items, rest) ← readHangingItems? expansions fuel depth afterItem
        some (item :: items, rest)
      else some ([], unread)

/-- Reads the members of a block mapping and its end. -/
def readBlockMembers? (expansions : Expansions) : (fuel depth : Nat) → Unread →
    Option (List (Node × Node) × Unread)
  | 0, _, _ => none
  | fuel + 1, depth, unread =>
      if unread.startsWithOneOf [.blockEnd] then some ([], unread.drop 1)
      else do
        let afterMark ← unread.expect? .key
        let (key, afterKey) ←
          readNodeUnless? expansions fuel depth [.key, .value, .blockEnd] .member afterMark
        let (value, afterValue) ←
          readValue? expansions fuel depth [.key, .value, .blockEnd] .member afterKey
        let (members, rest) ← readBlockMembers? expansions fuel depth afterValue
        some ((key, value) :: members, rest)

/-- Reads the value that belongs to a key, if a colon comes next. -/
def readValue? (expansions : Expansions) : (fuel depth : Nat) → List Token → Position →
    Unread → Option (Node × Unread)
  | 0, _, _, _, _ => none
  | fuel + 1, depth, ends, position, unread =>
      if unread.startsWithOneOf [.value] then
        readNodeUnless? expansions fuel depth ends position (unread.drop 1)
      else some (absent, unread)

/-- Reads the items of a bracketed sequence and its end. -/
def readFlowItems? (expansions : Expansions) : (fuel depth : Nat) → (first : Bool) →
    Unread → Option (List Node × Unread)
  | 0, _, _, _ => none
  | fuel + 1, depth, first, unread =>
      if unread.startsWithOneOf [.flowSequenceEnd] then some ([], unread.drop 1)
      else do
        let unread ← if first then some unread else unread.expect? .flowEntry
        if unread.startsWithOneOf [.flowSequenceEnd] then some ([], unread.drop 1)
        else
          let (item, afterItem) ←
            if unread.startsWithOneOf [.key] then
              readSingleMember? expansions fuel depth (unread.drop 1)
            else readNode? expansions fuel depth .flow unread
          let (items, rest) ← readFlowItems? expansions fuel depth false afterItem
          some (item :: items, rest)

/-- Reads a mapping of one member that is an item of a bracketed sequence, after the
mark of its key.  Where no key is written, the token in its place goes too. -/
def readSingleMember? (expansions : Expansions) : (fuel depth : Nat) → Unread →
    Option (Node × Unread)
  | 0, _, _ => none
  | _, 0, _ => none
  | fuel + 1, depth + 1, unread => do
      let (key, afterKey) ←
        if unread.startsWithOneOf [.value, .flowEntry, .flowSequenceEnd] then
          some (absent, unread.drop 1)
        else readNode? expansions fuel depth .flow unread
      let (value, rest) ←
        readValue? expansions fuel depth [.flowEntry, .flowSequenceEnd] .flow afterKey
      some (.mapping ⟨none, none⟩ [(key, value)], rest)

/-- Reads the members of a bracketed mapping and its end. -/
def readFlowMembers? (expansions : Expansions) : (fuel depth : Nat) → (first : Bool) →
    Unread → Option (List (Node × Node) × Unread)
  | 0, _, _, _ => none
  | fuel + 1, depth, first, unread =>
      if unread.startsWithOneOf [.flowMappingEnd] then some ([], unread.drop 1)
      else do
        let unread ← if first then some unread else unread.expect? .flowEntry
        if unread.startsWithOneOf [.flowMappingEnd] then some ([], unread.drop 1)
        else
          let (member, afterMember) ←
            if unread.startsWithOneOf [.key] then do
              let (key, afterKey) ←
                readNodeUnless? expansions fuel depth
                  [.value, .flowEntry, .flowMappingEnd] .flow (unread.drop 1)
              let (value, rest) ←
                readValue? expansions fuel depth [.flowEntry, .flowMappingEnd] .flow
                  afterKey
              some ((key, value), rest)
            else do
              let (key, rest) ← readNode? expansions fuel depth .flow unread
              some ((key, absent), rest)
          let (members, rest) ← readFlowMembers? expansions fuel depth false afterMember
          some (member :: members, rest)

end

/-- Collections nest at most this deep. -/
def nestingLimit : Nat := 128

/-- Reads the directives before a document: at most one version, which must be known,
and no handle twice. -/
def readDirectives? : (versioned : Bool) → Expansions → List Token →
    Option (Expansions × List Token)
  | versioned, expansions, .version major minor :: rest =>
      if versioned ∨ major ≠ 1 ∨ (minor ≠ 1 ∧ minor ≠ 2) then none
      else readDirectives? true expansions rest
  | versioned, expansions, .expansion handle expanded :: rest =>
      if (expansions.lookup handle).isSome then none
      else readDirectives? versioned ((handle, expanded) :: expansions) rest
  | _, expansions, tokens => some (expansions, tokens)

/-- Whether a document with a start mark ends here without content. -/
def isContentless : List Token → Bool
  | [] => true
  | .version _ _ :: _ => true
  | .expansion _ _ :: _ => true
  | token :: _ => token = .documentStart || token = .documentEnd

/-- Reads the content of a document. -/
def readContent? (expansions : Expansions) (tokens : List Token) :
    Option (Node × List Token) := do
  let (node, unread) ←
    readNode? expansions (4 * tokens.length + 4) nestingLimit .item ⟨tokens, []⟩
  some (node, unread.tokens)

/-- Reads the first document: one that starts without a mark has no directives. -/
def readDocument? (tokens : List Token) : Option (Node × List Token) := do
  let (directives, rest) ← readDirectives? false [] tokens
  match rest with
  | .documentStart :: content =>
      if isContentless content then some (absent, content)
      else readContent? (directives ++ defaultExpansions) content
  | _ => if rest = tokens then readContent? defaultExpansions tokens else none

/-- The node that tokens write; nothing but end marks may follow it. -/
def ofTokens? (tokens : List Token) : Option Node :=
  if tokens.isEmpty then some absent
  else do
    let (node, rest) ← readDocument? tokens
    if rest.all (· = .documentEnd) then some node else none

end Node

end Yaml

end StatesLanguage
