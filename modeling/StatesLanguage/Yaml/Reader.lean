import StatesLanguage.Yaml.Node
import StatesLanguage.Yaml.Scalar

/-!
# Reading YAML documents

The document that a text writes: members are named by the text of their scalar keys,
of members with one name the last counts, and aliases stand for what they refer to.
Aliases that repeat too much, or that refer to what they stand in, are malformed.
-/

namespace StatesLanguage

namespace Yaml

namespace Node

mutual

/-- The nodes that carry an anchor, with its number, in the order in which they
start. -/
def anchored : Node → List (Nat × Node)
  | .scalar properties plain text =>
      match properties.anchor with
      | some number => [(number, .scalar properties plain text)]
      | none => []
  | .sequence properties items =>
      match properties.anchor with
      | some number => (number, .sequence properties items) :: anchoredItems items
      | none => anchoredItems items
  | .mapping properties members =>
      match properties.anchor with
      | some number => (number, .mapping properties members) :: anchoredMembers members
      | none => anchoredMembers members
  | .alias _ => []

def anchoredItems : List Node → List (Nat × Node)
  | [] => []
  | item :: rest => item.anchored ++ anchoredItems rest

def anchoredMembers : List (Node × Node) → List (Nat × Node)
  | [] => []
  | (key, value) :: rest => key.anchored ++ value.anchored ++ anchoredMembers rest

end

mutual

/-- The size of a node: one for a scalar or an alias, two for a collection besides its
parts. -/
def size : Node → Nat
  | .scalar _ _ _ => 1
  | .sequence _ items => 2 + itemsSize items
  | .mapping _ members => 2 + membersSize members
  | .alias _ => 1

def itemsSize : List Node → Nat
  | [] => 0
  | item :: rest => item.size + itemsSize rest

def membersSize : List (Node × Node) → Nat
  | [] => 0
  | (key, value) :: rest => key.size + value.size + membersSize rest

end

/-- A computation that follows a limited number of aliases. -/
abbrev Following := StateT Nat Option

/-- Follows one alias more. -/
def follow : Following Unit :=
  fun left => match left with
    | 0 => none
    | left + 1 => some ((), left)

/-- The node that an alias stands for: of the nodes with its number, the last one. -/
def resolve (table : List (Nat × Node)) : Node → Following Node
  | .alias anchor => do
      follow
      match (table.filter (·.1 = anchor)).getLast? with
      | some (_, node) => pure node
      | none => failure
  | node => pure node

/-- The name that a key writes. -/
def keyName (table : List (Nat × Node)) (key : Node) : Following String := do
  match ← key.resolve table with
  | .scalar _ _ text => pure text
  | _ => failure

/-- Refuses a local tag. -/
def checkTag (properties : Properties) : Following Unit :=
  if properties.tag.any isLocalTag then failure else pure ()

/-- The document of a node in which collections nest at most `depth` deep. -/
def document (table : List (Nat × Node)) : (depth : Nat) → Node → Following Document
  | 0, node => do
      match ← node.resolve table with
      | .scalar properties plain text =>
          StateT.lift (scalarDocument? properties.tag plain text)
      | _ => failure
  | depth + 1, node => do
      match ← node.resolve table with
      | .scalar properties plain text =>
          StateT.lift (scalarDocument? properties.tag plain text)
      | .sequence properties items => do
          checkTag properties
          let values ← items.mapM (document table depth)
          pure (.array values)
      | .mapping properties members => do
          checkTag properties
          let values ← members.mapM fun (key, value) => do
            let name ← key.keyName table
            let value ← document table depth value
            pure (name, value)
          pure (Document.ofMembers values)
      | .alias _ => failure

/-- The document of a whole tree; for each part of it a hundred aliases may be
followed. -/
def document? (node : Node) : Option Document :=
  ((node.document node.anchored nestingLimit).run (100 * node.size)).map (·.1)

end Node

def read? (text : String) : Option Document := do
  let tokens ← tokens? text
  let node ← Node.ofTokens? tokens
  node.document?

end Yaml

end StatesLanguage
