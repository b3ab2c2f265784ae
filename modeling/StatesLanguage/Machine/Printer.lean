import StatesLanguage.Machine
import StatesLanguage.Rule.Notation

/-!
# Machines as documents

`Machine.toDocument` writes a machine.  What is absent or empty is left out, and so
is an `End` that is false.
-/

namespace StatesLanguage

/-- A member that is written if there is a value. -/
def optionalMember {α : Type} (name : String) (write : α → Document) :
    Option α → List (String × Document)
  | none => []
  | some value => [(name, write value)]

/-- A path attribute, unless it is absent. -/
def PathAttribute.toMember (name : String) : PathAttribute → List (String × Document)
  | .absent => []
  | .null => [(name, .null)]
  | .path expression => [(name, .string expression)]

/-- A list that is written if it is not empty. -/
def listMember {α : Type} (name : String) (write : α → Document) :
    List α → List (String × Document)
  | [] => []
  | items => [(name, .array (items.map write))]

def realDocument (value : Binary64) : Document :=
  .number (.real value)

def textsDocument (texts : List String) : Document :=
  .array (texts.map .string)

def Retrier.toDocument (retrier : Retrier) : Document :=
  Document.ofMembers <|
    [("ErrorEquals", textsDocument retrier.errorEquals)] ++
      optionalMember "IntervalSeconds" realDocument retrier.intervalSeconds ++
      optionalMember "BackoffRate" realDocument retrier.backoffRate ++
      optionalMember "MaxAttempts" Document.ofNat retrier.maxAttempts ++
      optionalMember "MaxDelaySeconds" realDocument retrier.maxDelaySeconds

def Catcher.toDocument (catcher : Catcher) : Document :=
  Document.ofMembers <|
    [("ErrorEquals", textsDocument catcher.errorEquals)] ++
      catcher.resultPath.toMember "ResultPath" ++
      [("Next", .string catcher.next)]

def Frame.toMembers (frame : Frame) : List (String × Document) :=
  optionalMember "Comment" .string frame.comment ++
    frame.inputPath.toMember "InputPath" ++ frame.outputPath.toMember "OutputPath"

def Exit.toMembers (exit : Exit) : List (String × Document) :=
  optionalMember "Next" .string exit.next ++
    (if exit.isEnd then [("End", .bool true)] else [])

def Payload.toMembers (payload : Payload) : List (String × Document) :=
  optionalMember "Parameters" id payload.parameters ++
    optionalMember "ResultSelector" id payload.resultSelector ++
    payload.resultPath.toMember "ResultPath"

/-- The members that the handling of errors writes. -/
def Recovery.toMembers (recovery : Recovery) : List (String × Document) :=
  listMember "Retry" Retrier.toDocument recovery.retriers ++
    listMember "Catch" Catcher.toDocument recovery.catchers

/-- The member that names the kind of a state. -/
def StateKind.toMember (kind : StateKind) : String × Document :=
  ("Type", .string kind.name)

mutual

def State.toDocument : State → Document
  | .task frame work =>
      Document.ofMembers <|
        StateKind.task.toMember :: ("Resource", .string work.resource) ::
          frame.toMembers ++ work.payload.toMembers ++ work.recovery.toMembers ++
          optionalMember "TimeoutSeconds" Document.ofNat work.timeoutSeconds ++
          optionalMember "TimeoutSecondsPath" .string work.timeoutSecondsPath ++
          optionalMember "HeartbeatSeconds" Document.ofNat work.heartbeatSeconds ++
          optionalMember "HeartbeatSecondsPath" .string work.heartbeatSecondsPath ++
          work.exit.toMembers
  | .pass frame given =>
      Document.ofMembers <|
        StateKind.pass.toMember :: frame.toMembers ++
          optionalMember "Parameters" id given.parameters ++
          optionalMember "Result" id given.result ++
          given.resultPath.toMember "ResultPath" ++ given.exit.toMembers
  | .choice frame branching =>
      Document.ofMembers <|
        StateKind.choice.toMember ::
          ("Choices", .array (branching.rules.map Rule.toDocument)) ::
          optionalMember "Default" .string branching.default ++ frame.toMembers ++
          branching.exit.toMembers
  | .wait frame delay =>
      Document.ofMembers <|
        StateKind.wait.toMember ::
          optionalMember "Seconds" Document.ofNat delay.seconds ++
          optionalMember "SecondsPath" .string delay.secondsPath ++
          optionalMember "Timestamp" .string delay.timestamp ++
          optionalMember "TimestampPath" .string delay.timestampPath ++
          frame.toMembers ++ delay.exit.toMembers
  | .succeed frame =>
      Document.ofMembers (StateKind.succeed.toMember :: frame.toMembers)
  | .fail failing =>
      Document.ofMembers <|
        StateKind.fail.toMember :: optionalMember "Error" .string failing.error ++
          optionalMember "Cause" .string failing.cause ++
          optionalMember "Comment" .string failing.comment
  | .map frame items =>
      Document.ofMembers <|
        StateKind.map.toMember :: optionalMember "ItemsPath" .string items.itemsPath ++
          optionalMember "Iterator" id items.iterator ++
          optionalMember "ItemProcessor" id items.itemProcessor ++
          optionalMember "MaxConcurrency" Document.ofNat items.maxConcurrency ++
          frame.toMembers ++ items.payload.toMembers ++ items.recovery.toMembers ++
          items.exit.toMembers
  | .parallel frame branches payload recovery exit =>
      Document.ofMembers <|
        StateKind.parallel.toMember :: ("Branches", .array (machineDocuments branches)) ::
          frame.toMembers ++ payload.toMembers ++ recovery.toMembers ++ exit.toMembers

def Machine.toDocument : Machine → Document
  | ⟨startAt, states, comment, version, timeoutSeconds⟩ =>
      Document.ofMembers <|
        [("StartAt", .string startAt), ("States", .object (stateDocuments states))] ++
          optionalMember "Comment" .string comment ++
          optionalMember "Version" .string version ++
          optionalMember "TimeoutSeconds" Document.ofNat timeoutSeconds

def machineDocuments : List Machine → List Document
  | [] => []
  | machine :: rest => machine.toDocument :: machineDocuments rest

def stateDocuments : List (String × State) → List (String × Document)
  | [] => []
  | (name, state) :: rest => (name, state.toDocument) :: stateDocuments rest

end

end StatesLanguage
