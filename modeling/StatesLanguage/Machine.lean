import StatesLanguage.DataFlow
import StatesLanguage.Rule

/-!
# State machines

A machine names its first state and holds its states by name.  A state of most kinds
selects its input and output, and either names the next state or ends the run; a
Choice state leaves that to its rules, and Succeed and Fail states always end it.
-/

namespace StatesLanguage

/-- An entry of a Retry list.  What is not set falls back to the settings. -/
structure Retrier where
  errorEquals : List String
  intervalSeconds : Option Binary64
  backoffRate : Option Binary64
  maxAttempts : Option Nat
  maxDelaySeconds : Option Binary64
  deriving DecidableEq

/-- An entry of a Catch list: where the run goes on, and where the error is written. -/
structure Catcher where
  errorEquals : List String
  resultPath : PathAttribute
  next : String
  deriving DecidableEq

/-- The kinds of states. -/
inductive StateKind where
  | task
  | pass
  | choice
  | wait
  | succeed
  | fail
  | map
  | parallel
  deriving DecidableEq, Repr

/-- What every state but a Fail state declares. -/
structure Frame where
  comment : Option String
  inputPath : PathAttribute
  outputPath : PathAttribute
  deriving DecidableEq

/-- The next state, and whether the run ends here. -/
structure Exit where
  next : Option String
  isEnd : Bool
  deriving DecidableEq

/-- How a state shapes the input of its work and the result. -/
structure Payload where
  parameters : Option Document
  resultSelector : Option Document
  resultPath : PathAttribute
  deriving DecidableEq

/-- What a state does about errors. -/
structure Recovery where
  retriers : List Retrier
  catchers : List Catcher
  deriving DecidableEq

/-- Work that a resolver does; its time limits are for the resolver to keep. -/
structure Task where
  resource : String
  payload : Payload
  recovery : Recovery
  timeoutSeconds : Option Nat
  timeoutSecondsPath : Option String
  heartbeatSeconds : Option Nat
  heartbeatSecondsPath : Option String
  exit : Exit
  deriving DecidableEq

/-- A fixed result, or the input. -/
structure Pass where
  parameters : Option Document
  result : Option Document
  resultPath : PathAttribute
  exit : Exit
  deriving DecidableEq

/-- Rules that choose the next state; the exit has no use and is kept to be refused. -/
structure Choice where
  rules : List Rule
  default : Option String
  exit : Exit

/-- A delay for some seconds, or up to a point in time. -/
structure Wait where
  seconds : Option Nat
  secondsPath : Option String
  timestamp : Option String
  timestampPath : Option String
  exit : Exit
  deriving DecidableEq

/-- The error that a run fails with. -/
structure Fail where
  error : Option String
  cause : Option String
  comment : Option String
  deriving DecidableEq

/-- Work on each item of an array, declared but not run. -/
structure MapItems where
  itemsPath : Option String
  iterator : Option Document
  itemProcessor : Option Document
  maxConcurrency : Option Nat
  payload : Payload
  recovery : Recovery
  exit : Exit
  deriving DecidableEq

mutual

/-- A state of a machine. -/
inductive State where
  | task (frame : Frame) (task : Task)
  | pass (frame : Frame) (pass : Pass)
  | choice (frame : Frame) (choice : Choice)
  | wait (frame : Frame) (wait : Wait)
  | succeed (frame : Frame)
  | fail (fail : Fail)
  | map (frame : Frame) (items : MapItems)
  | parallel (frame : Frame) (branches : List Machine) (payload : Payload)
      (recovery : Recovery) (exit : Exit)

/-- A machine: the name of its first state, and its states by name. -/
structure Machine where
  startAt : String
  states : List (String × State)
  comment : Option String
  version : Option String
  timeoutSeconds : Option Nat

end

namespace StateKind

def name : StateKind → String
  | .task => "Task"
  | .pass => "Pass"
  | .choice => "Choice"
  | .wait => "Wait"
  | .succeed => "Succeed"
  | .fail => "Fail"
  | .map => "Map"
  | .parallel => "Parallel"

def every : List StateKind :=
  [.task, .pass, .choice, .wait, .succeed, .fail, .map, .parallel]

def ofName? (name : String) : Option StateKind :=
  every.find? (·.name = name)

end StateKind

namespace State

def kind : State → StateKind
  | .task .. => .task
  | .pass .. => .pass
  | .choice .. => .choice
  | .wait .. => .wait
  | .succeed .. => .succeed
  | .fail .. => .fail
  | .map .. => .map
  | .parallel .. => .parallel

/-- What a state selects; a Fail state selects nothing of its own. -/
def frame : State → Frame
  | .task frame _ => frame
  | .pass frame _ => frame
  | .choice frame _ => frame
  | .wait frame _ => frame
  | .succeed frame => frame
  | .fail failing => ⟨failing.comment, .absent, .absent⟩
  | .map frame _ => frame
  | .parallel frame .. => frame

/-- How a state shapes its payload; most kinds do not. -/
def payload : State → Payload
  | .task _ work => work.payload
  | .pass _ given => ⟨given.parameters, none, given.resultPath⟩
  | .map _ items => items.payload
  | .parallel _ _ payload _ _ => payload
  | _ => ⟨none, none, .absent⟩

/-- What a state does about errors; most kinds do nothing. -/
def recovery : State → Recovery
  | .task _ work => work.recovery
  | .map _ items => items.recovery
  | .parallel _ _ _ recovery _ => recovery
  | _ => ⟨[], []⟩

/-- Where a state goes, as it declares it. -/
def exit : State → Exit
  | .task _ work => work.exit
  | .pass _ given => given.exit
  | .choice _ branching => branching.exit
  | .wait _ delay => delay.exit
  | .map _ items => items.exit
  | .parallel _ _ _ _ exit => exit
  | .succeed _ | .fail _ => ⟨none, false⟩

/-- Whether a state ends every run. -/
def isTerminal : State → Bool
  | .succeed _ | .fail _ => true
  | _ => false

end State

namespace Machine

def state? (machine : Machine) (name : String) : Option State :=
  Members.get? name machine.states

def defines (machine : Machine) (name : String) : Bool :=
  (machine.state? name).isSome

end Machine

end StatesLanguage
