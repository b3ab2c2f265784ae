import StatesLanguage.Failure
import StatesLanguage.Rule

/-!
# Rules as documents

A rule is written as an object: a combinator with its rules, or an operator with
its operand beside the path of the value.  `Rule.read` reads one and
`Rule.toDocument` writes it.
-/

namespace StatesLanguage

namespace Rule

/-- The word that starts the key of a comparison of this kind. -/
def Kind.word : Kind → String
  | .string => "String"
  | .numeric => "Numeric"
  | .boolean => "Boolean"
  | .timestamp => "Timestamp"

/-- The word that follows in the key of a comparison. -/
def Relation.word : Relation → String
  | .equals => "Equals"
  | .lessThan => "LessThan"
  | .greaterThan => "GreaterThan"
  | .lessThanEquals => "LessThanEquals"
  | .greaterThanEquals => "GreaterThanEquals"

def Relation.every : List Relation :=
  [.equals, .lessThan, .greaterThan, .lessThanEquals, .greaterThanEquals]

/-- The relations that values of a kind have; truth values are only equal or not. -/
def Kind.relations : Kind → List Relation
  | .boolean => [.equals]
  | _ => Relation.every

def TypeTest.key : TypeTest → String
  | .isNull => "IsNull"
  | .isPresent => "IsPresent"
  | .isNumeric => "IsNumeric"
  | .isString => "IsString"
  | .isBoolean => "IsBoolean"
  | .isTimestamp => "IsTimestamp"

def TypeTest.every : List TypeTest :=
  [.isNull, .isPresent, .isNumeric, .isString, .isBoolean, .isTimestamp]

/-- The key of a comparison with a literal, or with what a path selects. -/
def comparisonKey (kind : Kind) (relation : Relation) (isPath : Bool) : String :=
  kind.word ++ relation.word ++ (if isPath then "Path" else "")

def stringMatchesKey : String := "StringMatches"

/-- What the key of an operator announces. -/
inductive Heading where
  | compare (kind : Kind) (relation : Relation) (isPath : Bool)
  | stringMatches
  | typeTest (test : TypeTest)
  deriving DecidableEq, Repr

/-- The key that announces an operator. -/
def Heading.key : Heading → String
  | .compare kind relation isPath => comparisonKey kind relation isPath
  | .stringMatches => stringMatchesKey
  | .typeTest test => test.key

/-- All operators that keys announce. -/
def Heading.every : List Heading :=
  TypeTest.every.map .typeTest ++ [.stringMatches] ++
    [Kind.string, .numeric, .boolean, .timestamp].flatMap fun kind =>
      kind.relations.flatMap fun relation =>
        [.compare kind relation false, .compare kind relation true]

/-- The operator that a key announces. -/
def Heading.ofKey? (key : String) : Option Heading :=
  Heading.every.find? (·.key = key)

/-- Whether a literal has the kind. -/
def Kind.admits (kind : Kind) (value : Document) : Bool :=
  match kind, value with
  | .string, .string _ => true
  | .timestamp, .string _ => true
  | .numeric, .number _ => true
  | .boolean, .bool _ => true
  | _, _ => false

/-- The pattern that a source writes, or why it is none. -/
def readPattern (source : String) : Except Failure Glob :=
  match Glob.read? source with
  | some pattern => .ok pattern
  | none =>
      .error (.invalidDefinition
        ("StringMatches pattern '" ++ source ++ "': dangling escape"))

/-- The operator under a key with an operand. -/
def readOperator (key : String) (operand : Document) : Except Failure Operator :=
  match Heading.ofKey? key with
  | none => .error (.unsupportedOperator key)
  | some (.typeTest test) =>
      match operand with
      | .bool expected => .ok (.typeTest test expected)
      | _ => .error (.invalidDefinition (key ++ " expects a boolean operand"))
  | some .stringMatches =>
      match operand with
      | .string source => (readPattern source).map .stringMatches
      | _ => .error (.invalidDefinition "StringMatches expects a string operand")
  | some (.compare kind relation true) =>
      match operand with
      | .string expression => .ok (.compare kind relation (.path expression))
      | _ => .error (.invalidDefinition (key ++ " expects a path string operand"))
  | some (.compare kind relation false) =>
      if kind.admits operand then .ok (.compare kind relation (.literal operand))
      else
        .error (.invalidDefinition
          (key ++ " has an operand of the wrong type: " ++ operand.compact))

def Operator.key : Operator → String
  | .compare kind relation (.literal _) => comparisonKey kind relation false
  | .compare kind relation (.path _) => comparisonKey kind relation true
  | .stringMatches _ => stringMatchesKey
  | .typeTest test _ => test.key

/-- The operand that is written under the key of an operator. -/
def Operator.operand : Operator → Document
  | .compare _ _ (.literal value) => value
  | .compare _ _ (.path expression) => .string expression
  | .stringMatches pattern => .string pattern.source
  | .typeTest _ expected => .bool expected

/-- Members of a comparison that are no operators. -/
def isReserved (name : String) : Bool :=
  name = "Variable" || name = "Next" || name = "Comment"

/-- The next state that the members of a rule name. -/
def readNext (members : List (String × Document)) : Except Failure (Option String) :=
  match Members.get? "Next" members with
  | none => .ok none
  | some (.string next) => .ok (some next)
  | some other =>
      .error (.invalidDefinition
        ("choice rule Next must be a string, got " ++ other.compact))

/-- The comparison that the members of a rule make. -/
def readComparison (members : List (String × Document)) : Except Failure Comparison :=
  match members.filter (fun member => !isReserved member.1) with
  | [] => .error (.invalidDefinition "choice rule has no comparison operator")
  | (first, _) :: (second, _) :: _ =>
      .error (.invalidDefinition
        ("choice rule has more than one operator: '" ++ first ++ "' and '" ++
          second ++ "'"))
  | [(key, operand)] => do
      let operator ← readOperator key operand
      match (Members.get? "Variable" members).bind Document.string? with
      | some path => .ok ⟨path, operator⟩
      | none =>
          .error (.invalidDefinition (key ++ " comparison requires a Variable path"))

mutual

/-- The rule that a document writes.  Of the combinators the first of `And`, `Or`
and `Not` counts; without one the members make a comparison. -/
def read : Document → Except Failure Rule
  | .object members => do
      let next ← readNext members
      match findRules "And" members with
      | some rules => return .all (← rules) next
      | none =>
      match findRules "Or" members with
      | some rules => return .any (← rules) next
      | none =>
      match findRule "Not" members with
      | some rule => return .negation (← rule) next
      | none => return .comparison (← readComparison members) next
  | other =>
      .error (.invalidDefinition
        ("choice rule must be an object, got " ++ other.compact))

/-- The rules that a non-empty array under a combinator writes. -/
def readList (combinator : String) : Document → Except Failure (List Rule)
  | .array [] =>
      .error (.invalidDefinition (combinator ++ " must contain at least one rule"))
  | .array items => readAll items
  | _ => .error (.invalidDefinition (combinator ++ " expects a list of rules"))

/-- The rules that documents write; the first failure counts. -/
def readAll : List Document → Except Failure (List Rule)
  | [] => .ok []
  | item :: rest => do
      let rule ← read item
      let rules ← readAll rest
      return rule :: rules

/-- The rules under a combinator, if the members have it. -/
def findRules (combinator : String) :
    List (String × Document) → Option (Except Failure (List Rule))
  | [] => none
  | (name, value) :: rest =>
      if name = combinator then some (readList combinator value)
      else findRules combinator rest

/-- The rule under a combinator, if the members have it. -/
def findRule (combinator : String) :
    List (String × Document) → Option (Except Failure Rule)
  | [] => none
  | (name, value) :: rest =>
      if name = combinator then some (read value) else findRule combinator rest

end

/-- The member that names the next state, if there is one. -/
def nextMember : Option String → List (String × Document)
  | none => []
  | some next => [("Next", .string next)]

mutual

def toDocument : Rule → Document
  | .all rules next =>
      Document.ofMembers (("And", .array (toDocuments rules)) :: nextMember next)
  | .any rules next =>
      Document.ofMembers (("Or", .array (toDocuments rules)) :: nextMember next)
  | .negation rule next =>
      Document.ofMembers (("Not", toDocument rule) :: nextMember next)
  | .comparison leaf next =>
      Document.ofMembers
        (("Variable", .string leaf.path) ::
          (leaf.operator.key, leaf.operator.operand) :: nextMember next)

def toDocuments : List Rule → List Document
  | [] => []
  | rule :: rest => toDocument rule :: toDocuments rest

end

end Rule

end StatesLanguage
