import StatesLanguage.Document.Record
import StatesLanguage.Machine
import StatesLanguage.Rule.Notation

/-!
# Reading machines

Every part of a machine is a record.  The kind of a state stands under `Type`, or
first if the state is written as an array.  Inside a branch the kind may also be
given by its position among all kinds.
-/

namespace StatesLanguage

open RecordReader

namespace Shape

/-- A path attribute that is there: `null` or a path. -/
def pathAttribute : Shape PathAttribute
  | .null => .ok .null
  | .string expression => .ok (.path expression)
  | _ => .error .wrongShape

def rule : Shape Rule := fun document =>
  match Rule.read document with
  | .ok rule => .ok rule
  | .error _ => .error .wrongShape

end Shape

/-- A path attribute, absent unless it is written. -/
def pathMember (name : String) : RecordReader PathAttribute :=
  withDefault name Shape.pathAttribute .absent

namespace TaskError

def reader : RecordReader TaskError :=
  TaskError.mk <$> required "Error" Shape.text <*> required "Cause" Shape.text

end TaskError

namespace Retrier

def reader : RecordReader Retrier :=
  Retrier.mk <$> required "ErrorEquals" (Shape.list Shape.text)
    <*> optional "IntervalSeconds" Shape.real
    <*> optional "BackoffRate" Shape.real
    <*> optional "MaxAttempts" Shape.word32
    <*> optional "MaxDelaySeconds" Shape.real

end Retrier

namespace Catcher

def reader : RecordReader Catcher :=
  Catcher.mk <$> required "ErrorEquals" (Shape.list Shape.text)
    <*> pathMember "ResultPath"
    <*> required "Next" Shape.text

end Catcher

/-- The Retry list of a state, empty unless it is written. -/
def retryMember : RecordReader (List Retrier) :=
  withDefault "Retry" (Shape.list Retrier.reader.read) []

/-- The Catch list of a state, empty unless it is written. -/
def catchMember : RecordReader (List Catcher) :=
  withDefault "Catch" (Shape.list Catcher.reader.read) []

/-- Whether a state ends the run, not unless it is written. -/
def endMember : RecordReader Bool :=
  withDefault "End" Shape.bool false

namespace StateKind

def read (inBranch : Bool) : Document → Except ShapeFault StateKind
  | .string name =>
      match ofName? name with
      | some kind => .ok kind
      | none => .error (.unknownVariant name (every.map StateKind.name))
  | .number (.integer (.ofNat position)) =>
      match inBranch, every[position]? with
      | true, some kind => .ok kind
      | _, _ => .error .wrongShape
  | _ => .error .wrongShape

end StateKind

namespace State

def taskReader : RecordReader State :=
  (fun resource comment inputPath outputPath parameters resultSelector resultPath
      retriers catchers timeoutSeconds timeoutSecondsPath heartbeatSeconds
      heartbeatSecondsPath next isEnd =>
    .task ⟨comment, inputPath, outputPath⟩
      { resource
        payload := ⟨parameters, resultSelector, resultPath⟩
        recovery := ⟨retriers, catchers⟩
        timeoutSeconds, timeoutSecondsPath, heartbeatSeconds, heartbeatSecondsPath
        exit := ⟨next, isEnd⟩ })
    <$> required "Resource" Shape.text
    <*> optional "Comment" Shape.text
    <*> pathMember "InputPath"
    <*> pathMember "OutputPath"
    <*> optional "Parameters" Shape.document
    <*> optional "ResultSelector" Shape.document
    <*> pathMember "ResultPath"
    <*> retryMember
    <*> catchMember
    <*> optional "TimeoutSeconds" Shape.word64
    <*> optional "TimeoutSecondsPath" Shape.text
    <*> optional "HeartbeatSeconds" Shape.word64
    <*> optional "HeartbeatSecondsPath" Shape.text
    <*> optional "Next" Shape.text
    <*> endMember

def passReader : RecordReader State :=
  (fun comment inputPath outputPath parameters result resultPath next isEnd =>
    .pass ⟨comment, inputPath, outputPath⟩
      ⟨parameters, result, resultPath, ⟨next, isEnd⟩⟩)
    <$> optional "Comment" Shape.text
    <*> pathMember "InputPath"
    <*> pathMember "OutputPath"
    <*> optional "Parameters" Shape.document
    <*> optional "Result" Shape.document
    <*> pathMember "ResultPath"
    <*> optional "Next" Shape.text
    <*> endMember

def choiceReader : RecordReader State :=
  (fun rules default comment inputPath outputPath next isEnd =>
    .choice ⟨comment, inputPath, outputPath⟩ ⟨rules, default, ⟨next, isEnd⟩⟩)
    <$> required "Choices" (Shape.list Shape.rule)
    <*> optional "Default" Shape.text
    <*> optional "Comment" Shape.text
    <*> pathMember "InputPath"
    <*> pathMember "OutputPath"
    <*> optional "Next" Shape.text
    <*> endMember

def waitReader : RecordReader State :=
  (fun seconds secondsPath timestamp timestampPath comment inputPath outputPath
      next isEnd =>
    .wait ⟨comment, inputPath, outputPath⟩
      ⟨seconds, secondsPath, timestamp, timestampPath, ⟨next, isEnd⟩⟩)
    <$> optional "Seconds" Shape.word64
    <*> optional "SecondsPath" Shape.text
    <*> optional "Timestamp" Shape.text
    <*> optional "TimestampPath" Shape.text
    <*> optional "Comment" Shape.text
    <*> pathMember "InputPath"
    <*> pathMember "OutputPath"
    <*> optional "Next" Shape.text
    <*> endMember

def succeedReader : RecordReader State :=
  (fun comment inputPath outputPath => .succeed ⟨comment, inputPath, outputPath⟩)
    <$> optional "Comment" Shape.text
    <*> pathMember "InputPath"
    <*> pathMember "OutputPath"

def failReader : RecordReader State :=
  (fun error cause comment => .fail ⟨error, cause, comment⟩)
    <$> optional "Error" Shape.text
    <*> optional "Cause" Shape.text
    <*> optional "Comment" Shape.text

def mapReader : RecordReader State :=
  (fun itemsPath iterator itemProcessor maxConcurrency comment inputPath outputPath
      parameters resultSelector resultPath retriers catchers next isEnd =>
    .map ⟨comment, inputPath, outputPath⟩
      { itemsPath, iterator, itemProcessor, maxConcurrency
        payload := ⟨parameters, resultSelector, resultPath⟩
        recovery := ⟨retriers, catchers⟩
        exit := ⟨next, isEnd⟩ })
    <$> optional "ItemsPath" Shape.text
    <*> optional "Iterator" Shape.document
    <*> optional "ItemProcessor" Shape.document
    <*> optional "MaxConcurrency" Shape.word32
    <*> optional "Comment" Shape.text
    <*> pathMember "InputPath"
    <*> pathMember "OutputPath"
    <*> optional "Parameters" Shape.document
    <*> optional "ResultSelector" Shape.document
    <*> pathMember "ResultPath"
    <*> retryMember
    <*> catchMember
    <*> optional "Next" Shape.text
    <*> endMember

/-- Reads a Parallel state whose branches are read already. -/
def parallelReader (branches : Except ShapeFault (List Machine)) : RecordReader State :=
  (fun branches comment inputPath outputPath parameters resultSelector resultPath
      retriers catchers next isEnd =>
    .parallel ⟨comment, inputPath, outputPath⟩ branches
      ⟨parameters, resultSelector, resultPath⟩ ⟨retriers, catchers⟩ ⟨next, isEnd⟩)
    <$> required "Branches" (fun _ => branches)
    <*> optional "Comment" Shape.text
    <*> pathMember "InputPath"
    <*> pathMember "OutputPath"
    <*> optional "Parameters" Shape.document
    <*> optional "ResultSelector" Shape.document
    <*> pathMember "ResultPath"
    <*> retryMember
    <*> catchMember
    <*> optional "Next" Shape.text
    <*> endMember

/-- Reads a state of a kind, with its branches read already. -/
def reader (branches : Except ShapeFault (List Machine)) : StateKind → RecordReader State
  | .task => taskReader
  | .pass => passReader
  | .choice => choiceReader
  | .wait => waitReader
  | .succeed => succeedReader
  | .fail => failReader
  | .map => mapReader
  | .parallel => parallelReader branches

end State

/-- Reads a machine whose states are read already. -/
def Machine.reader (states : Except ShapeFault (List (String × State))) :
    RecordReader Machine :=
  Machine.mk <$> required "StartAt" Shape.text
    <*> required "States" (fun _ => states)
    <*> optional "Comment" Shape.text
    <*> optional "Version" Shape.text
    <*> optional "TimeoutSeconds" Shape.word64

mutual

/-- The machine that a document writes, a branch of a Parallel state or not. -/
def Machine.readShape (inBranch : Bool) : Document → Except ShapeFault Machine
  | .object members =>
      (Machine.reader (statesMember inBranch members)).read (.object members)
  | .array (startAt :: states :: rest) =>
      (Machine.reader (readStates inBranch states)).read (.array (startAt :: states :: rest))
  | other => (Machine.reader (.ok [])).read other

/-- The states under the first `States`. -/
def statesMember (inBranch : Bool) :
    List (String × Document) → Except ShapeFault (List (String × State))
  | [] => .ok []
  | (name, value) :: rest =>
      if name = "States" then readStates inBranch value else statesMember inBranch rest

/-- The states of an object, by name. -/
def readStates (inBranch : Bool) : Document → Except ShapeFault (List (String × State))
  | .object members => readNamedStates inBranch members
  | _ => .error .wrongShape

/-- States with their names, one after another; the first fault counts. -/
def readNamedStates (inBranch : Bool) :
    List (String × Document) → Except ShapeFault (List (String × State))
  | [] => .ok []
  | (name, value) :: rest => do
      let state ← State.readShape inBranch value
      let states ← readNamedStates inBranch rest
      return (name, state) :: states

/-- The state that a document writes. -/
def State.readShape (inBranch : Bool) : Document → Except ShapeFault State
  | .object members =>
      match Members.get? "Type" members with
      | none => .error (.missingField "Type")
      | some type => do
          let kind ← StateKind.read inBranch type
          (State.reader (branchesMember members) kind).read (.object members)
  | .array [] => .error (.missingField "Type")
  | .array [type] => do
      let kind ← StateKind.read inBranch type
      (State.reader (.ok []) kind).read (.array [])
  | .array (type :: first :: rest) => do
      let kind ← StateKind.read inBranch type
      (State.reader (readBranches first) kind).read (.array (first :: rest))
  | _ => .error .wrongShape

/-- The machines under the first `Branches`. -/
def branchesMember : List (String × Document) → Except ShapeFault (List Machine)
  | [] => .ok []
  | (name, value) :: rest =>
      if name = "Branches" then readBranches value else branchesMember rest

/-- The machines of an array. -/
def readBranches : Document → Except ShapeFault (List Machine)
  | .array items => readMachines items
  | _ => .error .wrongShape

/-- Machines, one after another; the first fault counts. -/
def readMachines : List Document → Except ShapeFault (List Machine)
  | [] => .ok []
  | item :: rest => do
      let machine ← Machine.readShape true item
      let machines ← readMachines rest
      return machine :: machines

end

namespace Machine

/-- The machine that a document writes, whether or not it makes sense. -/
def read (document : Document) : Except Failure Machine :=
  (readShape false document).mapError fun fault => .unreadable fault.message

end Machine

end StatesLanguage
