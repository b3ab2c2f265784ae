import StatesLanguage.Document
import StatesLanguage.Glob

/-!
# Choice rules

A rule is a comparison or combines rules; a rule at the top of a Choice state also
names the next state.
-/

namespace StatesLanguage

namespace Rule

/-- The kinds of values that are compared. -/
inductive Kind where
  | string
  | numeric
  | boolean
  | timestamp
  deriving DecidableEq, Repr

/-- The relations between two values of a kind. -/
inductive Relation where
  | equals
  | lessThan
  | greaterThan
  | lessThanEquals
  | greaterThanEquals
  deriving DecidableEq, Repr

/-- What a value is compared with: a document, or what a path selects. -/
inductive Operand where
  | literal (value : Document)
  | path (expression : String)
  deriving DecidableEq

/-- Tests of what kind of value there is, or whether there is one. -/
inductive TypeTest where
  | isNull
  | isPresent
  | isNumeric
  | isString
  | isBoolean
  | isTimestamp
  deriving DecidableEq, Repr

/-- What a comparison asks of a value. -/
inductive Operator where
  | compare (kind : Kind) (relation : Relation) (operand : Operand)
  | stringMatches (pattern : Glob)
  | typeTest (test : TypeTest) (expected : Bool)
  deriving DecidableEq

/-- A path to a value and what is asked of it. -/
structure Comparison where
  path : String
  operator : Operator
  deriving DecidableEq

end Rule

/-- A rule; each names the next state or does not. -/
inductive Rule where
  | all (rules : List Rule) (next : Option String)
  | any (rules : List Rule) (next : Option String)
  | negation (rule : Rule) (next : Option String)
  | comparison (comparison : Rule.Comparison) (next : Option String)

namespace Rule

def next : Rule → Option String
  | .all _ next => next
  | .any _ next => next
  | .negation _ next => next
  | .comparison _ next => next

mutual

/-- The rule and the rules inside it, each before those inside it, with how deep
they are. -/
def walk (depth : Nat) : Rule → List (Nat × Rule)
  | .all rules next => (depth, .all rules next) :: walkAll (depth + 1) rules
  | .any rules next => (depth, .any rules next) :: walkAll (depth + 1) rules
  | .negation rule next => (depth, .negation rule next) :: walk (depth + 1) rule
  | .comparison leaf next => [(depth, .comparison leaf next)]

/-- The walks of rules, one after another. -/
def walkAll (depth : Nat) : List Rule → List (Nat × Rule)
  | [] => []
  | rule :: rest => walk depth rule ++ walkAll depth rest

end

end Rule

end StatesLanguage
