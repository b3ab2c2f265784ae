import StatesLanguage.Document
import StatesLanguage.Timestamp

/-!
# The context of an execution

The document that paths reach through two dollar signs.  Retries happen inside a
state, so the count of retries is zero whenever the document is made.
-/

namespace StatesLanguage

/-- What stays the same for a whole execution. -/
structure ExecutionContext where
  executionId : String
  machineId : String
  input : Document
  startTime : Instant
  deriving DecidableEq

namespace ExecutionContext

/-- The context document of a state that is entered at some time. -/
def forState (context : ExecutionContext) (state : String) (enteredTime : Instant) :
    Document :=
  .object
    [("Execution", .object
        [("Id", .string context.executionId),
          ("Input", context.input),
          ("Name", .string context.executionId),
          ("StartTime", .string (Timestamp.text context.startTime))]),
      ("State", .object
        [("EnteredTime", .string (Timestamp.text enteredTime)),
          ("Name", .string state),
          ("RetryCount", Document.ofNat 0)]),
      ("StateMachine", .object [("Id", .string context.machineId)]),
      ("Task", .empty)]

end ExecutionContext

end StatesLanguage
