import StatesLanguage.DataFlow
import StatesLanguage.Proofs.Outcome
import StatesLanguage.Rule.Evaluation
import StatesLanguage.Template

/-!
# Failures that data causes

Paths, calls, templates and rules depend on data that is only there during a run.
Whatever that data is, they fail with one of two kinds of failure: a path that
cannot be followed, or a call that cannot be evaluated.
-/

namespace StatesLanguage

open Outcome

/-- A path cannot be followed, or a call cannot be evaluated. -/
def Failure.IsOfData : Failure → Prop
  | .invalidPath _ => True
  | .invalidFunction _ => True
  | _ => False

/-- The only failures of an outcome are failures of data. -/
abbrev FailsOnData {α : Type} (result : Except Failure α) : Prop :=
  FailsOnly Failure.IsOfData result

namespace FailsOnData

theorem resolve (document : Document) (expression : String) (context : Document) :
    FailsOnData (document.resolve expression context) :=
  .mapError _ fun _ => trivial

theorem select (selector : PathAttribute) (document context : Document) :
    FailsOnData (selector.select document context) := by
  cases selector with
  | absent => exact .ok document
  | null => exact .ok Document.empty
  | path expression => exact resolve document expression context

theorem splice (selector : PathAttribute) (input result : Document) :
    FailsOnData (selector.splice input result) := by
  cases selector with
  | absent => exact .ok result
  | null => exact .ok input
  | path expression =>
      simp only [PathAttribute.splice, Document.assign]
      split
      · rename_i assigned
        exact .ok _
      · rename_i failure assigned
        split at assigned
        · cases assigned
          exact .error trivial
        · cases assigned
          exact .error trivial
        · split at assigned
          · cases assigned
          · cases assigned
            exact .error trivial

theorem ofName (name : String) : FailsOnData (Intrinsic.ofName name) := by
  unfold Intrinsic.ofName
  split
  · exact .ok _
  · exact .error trivial

theorem single (function : Intrinsic) (arguments : List Document) :
    FailsOnData (Intrinsic.single function arguments) := by
  unfold Intrinsic.single
  split
  · exact .ok _
  · exact .error trivial

theorem applyFormat (arguments : List Document) :
    FailsOnData (Intrinsic.applyFormat arguments) := by
  unfold Intrinsic.applyFormat
  split
  · exact .error trivial
  · exact .ok _
  · exact .error trivial

theorem parseText (value : Document) : FailsOnData (Intrinsic.parseText value) := by
  unfold Intrinsic.parseText
  split
  · split
    · exact .ok _
    · exact .error trivial
  · exact .error trivial

theorem apply (function : Intrinsic) (arguments : List Document) :
    FailsOnData (function.apply arguments) := by
  cases function with
  | format => exact applyFormat arguments
  | jsonToString =>
      exact (single .jsonToString arguments).bind fun value _ => .ok _
  | stringToJson =>
      exact (single .stringToJson arguments).bind fun value _ => parseText value
  | array => exact .ok _

theorem evaluateArgument (document context : Document) (argument : List Char) :
    FailsOnData (Call.evaluateArgument document context argument) := by
  simp only [Call.evaluateArgument]
  split
  · exact resolve document _ context
  · split
    · exact .ok _
    · split
      · exact .ok _
      · exact .error trivial

theorem evaluateArguments (document context : Document) (arguments : List (List Char)) :
    FailsOnData (Call.evaluateArguments document context arguments) := by
  induction arguments with
  | nil => exact .ok []
  | cons argument rest induction =>
      exact (evaluateArgument document context argument).bind fun value _ =>
        induction.bind fun values _ => .ok (value :: values)

theorem call (document : Document) (text : String) (context : Document) :
    FailsOnData (Call.evaluate document text context) := by
  unfold Call.evaluate
  split
  · exact .error trivial
  · rename_i call _
    refine (ofName call.name).bind fun function _ => ?_
    refine FailsOnly.bind (.mapError _ fun _ => trivial) fun parts _ => ?_
    exact (evaluateArguments document context parts).bind fun values _ =>
      apply function values

theorem evaluateString (text : String) (input context : Document) :
    FailsOnData (Template.evaluateString text input context) := by
  unfold Template.evaluateString
  split
  · exact resolve input text context
  · split
    · exact call input text context
    · exact .ok _

theorem evaluateDynamic (name : String) (value input context : Document) :
    FailsOnData (Template.evaluateDynamic name value input context) := by
  unfold Template.evaluateDynamic
  split
  · split
    · exact resolve input _ context
    · split
      · exact call input _ context
      · exact .error trivial
  · exact .error trivial

mutual

theorem template (document input context : Document) :
    FailsOnData (Template.evaluate document input context) := by
  cases document with
  | object members =>
      exact (templateMembers members input context).bind fun values _ => .ok _
  | array items =>
      exact (templateItems items input context).bind fun values _ => .ok _
  | string text => exact evaluateString text input context
  | null => exact .ok _
  | bool value => exact .ok _
  | number value => exact .ok _

theorem templateItems (items : List Document) (input context : Document) :
    FailsOnData (Template.evaluateItems items input context) := by
  cases items with
  | nil => exact .ok []
  | cons item rest =>
      exact (template item input context).bind fun value _ =>
        (templateItems rest input context).bind fun values _ => .ok _

theorem templateMembers (members : List (String × Document))
    (input context : Document) :
    FailsOnData (Template.evaluateMembers members input context) := by
  cases members with
  | nil => exact .ok []
  | cons member rest =>
      obtain ⟨name, value⟩ := member
      rw [Template.evaluateMembers]
      have later := templateMembers rest input context
      split
      · exact (evaluateDynamic name value input context).bind fun _ _ =>
          later.bind fun _ _ => .ok _
      · exact (template value input context).bind fun _ _ =>
          later.bind fun _ _ => .ok _

end

theorem operand (operand : Rule.Operand) (input context : Document) :
    FailsOnData (operand.resolve input context) := by
  cases operand with
  | literal value => exact .ok value
  | path expression => exact resolve input expression context

theorem operator (operator : Rule.Operator) (value input context : Document) :
    FailsOnData (operator.evaluate value input context) := by
  cases operator with
  | compare kind relation right =>
      exact (operand right input context).bind fun _ _ => .ok _
  | stringMatches pattern =>
      cases value with
      | string text => exact .ok _
      | null => exact .ok _
      | bool truth => exact .ok _
      | number number => exact .ok _
      | array items => exact .ok _
      | object members => exact .ok _
  | typeTest test expected => exact .ok _

theorem comparison (comparison : Rule.Comparison) (input context : Document) :
    FailsOnData (comparison.evaluate input context) := by
  unfold Rule.Comparison.evaluate
  have found := resolve input comparison.path context
  split
  · exact .ok _
  · exact .ok _
  · rename_i failure failed _
    exact .error (found failure failed)
  · exact operator _ _ input context

mutual

theorem rule (rule : Rule) (input context : Document) :
    FailsOnData (Rule.evaluate input context rule) := by
  cases rule with
  | all rules next => exact (ruleList rules input context).bind fun _ _ => .ok _
  | any rules next => exact (ruleList rules input context).bind fun _ _ => .ok _
  | negation inner next =>
      exact (FailsOnData.rule inner input context).bind fun _ _ => .ok _
  | comparison leaf next => exact comparison leaf input context

theorem ruleList (rules : List Rule) (input context : Document) :
    FailsOnData (Rule.evaluateAll input context rules) := by
  cases rules with
  | nil => exact .ok []
  | cons first rest =>
      exact (rule first input context).bind fun _ _ =>
        (ruleList rest input context).bind fun _ _ => .ok _

end

end FailsOnData

end StatesLanguage
