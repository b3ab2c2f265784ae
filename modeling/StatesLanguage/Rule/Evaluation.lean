import StatesLanguage.Path.Access
import StatesLanguage.Rule
import StatesLanguage.Timestamp

/-!
# Evaluating rules

A comparison is false if a value does not have the kind that it compares.  Every
rule inside a rule is evaluated, so the first failure in the order of the walk is
the failure of the whole.
-/

namespace StatesLanguage

namespace Rule

/-- The order of two truth values as far as relations can see: equal or not. -/
def compareBool (left right : Bool) : Ordering :=
  if left = right then .eq else .lt

/-- The order of two values of a kind; none if either is of another kind. -/
def Kind.compare? (kind : Kind) (left right : Document) : Option Ordering :=
  match kind with
  | .string => do
      let left ← left.string?
      let right ← right.string?
      pure (Ord.compare left right)
  | .numeric => do
      let left ← left.binary64?
      let right ← right.binary64?
      left.compare right
  | .boolean => do
      let left ← left.bool?
      let right ← right.bool?
      pure (compareBool left right)
  | .timestamp => do
      let left ← left.string?.bind Timestamp.read?
      let right ← right.string?.bind Timestamp.read?
      pure (left.compare right)

/-- Whether a relation holds between values in that order. -/
def Relation.holds (relation : Relation) (ordering : Ordering) : Bool :=
  match relation with
  | .equals => ordering == .eq
  | .lessThan => ordering == .lt
  | .greaterThan => ordering == .gt
  | .lessThanEquals => ordering != .gt
  | .greaterThanEquals => ordering != .lt

/-- Whether a value that is there passes a type test. -/
def TypeTest.passes (test : TypeTest) (value : Document) : Bool :=
  match test, value with
  | .isNull, .null => true
  | .isPresent, _ => true
  | .isNumeric, .number _ => true
  | .isString, .string _ => true
  | .isBoolean, .bool _ => true
  | .isTimestamp, .string text => Timestamp.isTimestamp text
  | _, _ => false

def Operand.resolve (operand : Operand) (input context : Document) :
    Except Failure Document :=
  match operand with
  | .literal value => .ok value
  | .path expression => input.resolve expression context

/-- Whether two values of a kind are in a relation; values of another kind are in
none. -/
def related (kind : Kind) (relation : Relation) (left right : Document) : Bool :=
  (kind.compare? left right).any relation.holds

/-- What an operator says of a value that is there. -/
def Operator.evaluate (operator : Operator) (value input context : Document) :
    Except Failure Bool :=
  match operator with
  | .compare kind relation operand => do
      let right ← operand.resolve input context
      return related kind relation value right
  | .stringMatches pattern =>
      match value with
      | .string text => .ok (pattern.accepts text)
      | _ => .ok false
  | .typeTest test expected => .ok (test.passes value == expected)

/-- What a comparison says.  Only a test for presence may find nothing. -/
def Comparison.evaluate (comparison : Comparison) (input context : Document) :
    Except Failure Bool :=
  match comparison.operator, input.resolve comparison.path context with
  | .typeTest .isPresent expected, .ok _ => .ok (true == expected)
  | .typeTest .isPresent expected, .error _ => .ok (false == expected)
  | _, .error failure => .error failure
  | operator, .ok value => operator.evaluate value input context

mutual

/-- What a rule says. -/
def evaluate (input context : Document) : Rule → Except Failure Bool
  | .all rules _ => do
      let results ← evaluateAll input context rules
      return results.all id
  | .any rules _ => do
      let results ← evaluateAll input context rules
      return results.any id
  | .negation rule _ => do
      let result ← evaluate input context rule
      return !result
  | .comparison leaf _ => leaf.evaluate input context

/-- What rules say, one after another; the first failure counts. -/
def evaluateAll (input context : Document) : List Rule → Except Failure (List Bool)
  | [] => .ok []
  | rule :: rest => do
      let result ← evaluate input context rule
      let results ← evaluateAll input context rest
      return result :: results

end

end Rule

end StatesLanguage
