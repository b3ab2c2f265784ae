import StatesLanguage.Document.Reader
import StatesLanguage.Document.Printer

/-!
# Failures

A failure is a kind with the facts that its message needs.  `Failure.name` is the
name under which machines match failures, and `Failure.message` the text that a
reader sees.
-/

namespace StatesLanguage

/-- What a task resolver reports when it fails: a name to match and a free text. -/
structure TaskError where
  error : String
  cause : String
  deriving DecidableEq, Repr

namespace TaskError

/-- The name, then the cause. -/
def message (taskError : TaskError) : String :=
  taskError.error ++ ": " ++ taskError.cause

/-- The document that a catcher writes. -/
def toDocument (taskError : TaskError) : Document :=
  .object [("Cause", .string taskError.cause), ("Error", .string taskError.error)]

end TaskError

namespace ErrorName

/-- In a list of errors, every error. -/
def all : String := "States.ALL"

/-- In a list of errors, every error but a timeout. -/
def taskFailed : String := "States.TaskFailed"

/-- A task that took too long. -/
def timeout : String := "States.Timeout"

/-- A task that nothing resolves. -/
def noResolver : String := "States.NoResolver"

/-- A Fail state without a name of its own. -/
def failed : String := "States.Failed"

end ErrorName

/-- A failure to load or to run a machine. -/
inductive Failure where
  | invalidPath (detail : String)
  | invalidFunction (detail : String)
  | unsupportedOperator (key : String)
  | noChoiceMatched (state : String)
  | unknownState (name : String)
  | taskFailure (state : String) (taskError : TaskError)
  | invalidDefinition (detail : String)
  | failed (error cause : String)
  | transitionLimitExceeded (limit : Nat)
  | unreadable (detail : String)
  | inaccessible (detail : String)
  deriving DecidableEq, Repr

namespace Failure

/-- The name under which the failure is reported. -/
def name : Failure → String
  | .invalidPath _ => "States.InvalidPath"
  | .invalidFunction _ => "States.InvalidFunction"
  | .unsupportedOperator _ => "States.UnsupportedOperator"
  | .noChoiceMatched _ => "States.NoChoiceMatched"
  | .unknownState _ => "States.UnknownState"
  | .taskFailure _ taskError => taskError.error
  | .invalidDefinition _ => "States.DefinitionError"
  | .failed error _ => error
  | .transitionLimitExceeded _ => "States.TransitionLimitExceeded"
  | .unreadable _ => "States.ParseError"
  | .inaccessible _ => "States.IoError"

def message : Failure → String
  | .invalidPath detail => "invalid path: " ++ detail
  | .invalidFunction detail => "invalid function: " ++ detail
  | .unsupportedOperator key => "unsupported operator: " ++ key
  | .noChoiceMatched state => "no choice matched in state '" ++ state ++ "'"
  | .unknownState name => "unknown state: '" ++ name ++ "'"
  | .taskFailure state taskError =>
      "task state '" ++ state ++ "' failed with " ++ taskError.message
  | .invalidDefinition detail => "definition error: " ++ detail
  | .failed error cause => "execution failed with " ++ error ++ ": " ++ cause
  | .transitionLimitExceeded limit =>
      "execution exceeded " ++ String.ofList (Number.digitText limit) ++
        " state transitions"
  | .unreadable detail => "parse error: " ++ detail
  | .inaccessible detail => "I/O error: " ++ detail

end Failure

end StatesLanguage
