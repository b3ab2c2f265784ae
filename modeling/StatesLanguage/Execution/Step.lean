import StatesLanguage.Attempts
import StatesLanguage.Execution.Context
import StatesLanguage.Execution.Event
import StatesLanguage.Registry
import StatesLanguage.Rule.Evaluation
import StatesLanguage.Template

/-!
# One state

A state selects its input, does its work, and shapes and places the result.  Work is
asking a resolver, waiting, choosing, or passing something on; only the first two
change the progress of the run.
-/

namespace StatesLanguage

/-- The surroundings of a run: its resolvers and settings, and the wall clock as it
reads after the events so far. -/
structure Environment (Memory : Type) where
  resolvers : Resolvers Memory
  settings : Settings
  clock : Journal → Instant

/-- What a run has done so far, and what its resolvers remember. -/
structure Progress (Memory : Type) where
  memory : Memory
  journal : Journal

namespace Progress

variable {Memory : Type}

def record (progress : Progress Memory) (event : Event) : Progress Memory :=
  { progress with journal := event :: progress.journal }

end Progress

/-- What the work of a state led to: a result that is still to be shaped and placed,
or an output that is final because a catcher took over. -/
inductive Decision where
  | result (value : Document) (next : Option String)
  | diverted (output : Document) (next : String)
  deriving DecidableEq

namespace Choice

/-- The next state that the first true rule with one names; a failure before it
counts. -/
def firstMatch? (input context : Document) : List Rule → Except Failure (Option String)
  | [] => .ok none
  | rule :: rest => do
      let holds ← Rule.evaluate input context rule
      match holds, rule.next with
      | true, some next => return some next
      | _, _ => firstMatch? input context rest

/-- The next state: of the first true rule, else the default. -/
def choose (name : String) (branching : Choice) (input context : Document) :
    Except Failure String := do
  match ← firstMatch? input context branching.rules with
  | some next => return next
  | none =>
      match branching.default with
      | some next => return next
      | none => .error (.noChoiceMatched name)

end Choice

namespace Wait

/-- The seconds from one instant to another, none if that is past. -/
def secondsUntil (now until_ : Instant) : Binary64 :=
  Delay.toSeconds (now.nanosecondsUntil until_)

/-- A number of seconds that can be waited for. -/
def readSeconds? (value : Document) : Option Binary64 :=
  value.binary64?.filter fun seconds =>
    seconds.isFinite && (Binary64.zero false).le seconds

/-- The seconds that a Wait state waits, before time is scaled. -/
def seconds? (name : String) (delay : Wait) (input context : Document) (now : Instant) :
    Except Failure Binary64 :=
  match delay with
  | { seconds := some seconds, .. } => .ok (Binary64.ofNat seconds)
  | { secondsPath := some expression, .. } => do
      let value ← input.resolve expression context
      match readSeconds? value with
      | some seconds => return seconds
      | none =>
          .error (.invalidPath
            (expression ++ " must resolve to a non-negative number, got " ++
              value.compact))
  | { timestamp := some text, .. } =>
      match Timestamp.read? text with
      | some instant => .ok (secondsUntil now instant)
      | none =>
          .error (.invalidDefinition
            ("Wait state '" ++ name ++ "' has an invalid Timestamp '" ++ text ++ "'"))
  | { timestampPath := some expression, .. } => do
      let value ← input.resolve expression context
      match value.string?.bind Timestamp.read? with
      | some instant => return secondsUntil now instant
      | none =>
          .error (.invalidPath
            (expression ++ " must resolve to a timestamp, got " ++ value.compact))
  | _ => .error (.invalidDefinition ("Wait state '" ++ name ++ "' declares no duration"))

end Wait

namespace Task

variable {Memory : Type}

/-- The resolver of a task: one under its resource, else one under the name of its
state. -/
def resolver? (resolvers : Resolvers Memory) (name : String) (work : Task) :
    Option String :=
  if resolvers.knows work.resource then some work.resource
  else if resolvers.knows name then some name
  else none

/-- Attempts of a task are asked of its resolver with one input. -/
def workplace (environment : Environment Memory) (work : Task) (resolver : String)
    (input : Document) : Workplace (Progress Memory) where
  attempt number progress :=
    let asked := (progress.record (.attempted work.resource number)).record
      (.invoked resolver input)
    let (answer, memory) := environment.resolvers.invoke resolver input asked.memory
    (answer, { asked with memory })
  pause nanoseconds progress := progress.record (.slept nanoseconds)

/-- Does the work of a task. -/
def perform (environment : Environment Memory) (name : String) (work : Task)
    (input rawInput : Document) (progress : Progress Memory) :
    Except Failure Decision × Progress Memory :=
  match work.resolver? environment.resolvers name with
  | none =>
      match environment.settings.unresolvedTask with
      | .passThrough => (.ok (.result input work.exit.next), progress)
      | .fail =>
          (.error (.taskFailure name
            ⟨ErrorName.noResolver,
              "no resolver registered for resource '" ++ work.resource ++ "'"⟩),
            progress)
  | some resolver =>
      let policy : RetryPolicy :=
        ⟨work.recovery.catchers, environment.settings.retry,
          environment.settings.timeScale⟩
      match policy.run work.recovery.retriers
        (work.workplace environment resolver input) progress with
      | (.completed value _, progress) => (.ok (.result value work.exit.next), progress)
      | (.caught taskError index, progress) =>
          match work.recovery.catchers[index]? with
          | some catcher =>
              ((catcher.resultPath.splice rawInput taskError.toDocument).map
                (.diverted · catcher.next), progress)
          | none => (.error (.taskFailure name taskError), progress)
      | (.failed taskError, progress) => (.error (.taskFailure name taskError), progress)

end Task

namespace State

variable {Memory : Type}

/-- The effective input of a state: what its path selects, then what its template
makes of it. -/
def effectiveInput (state : State) (rawInput context : Document) :
    Except Failure Document := do
  let selected ← state.frame.inputPath.select rawInput context
  match state.payload.parameters with
  | none => return selected
  | some template => Template.evaluate template selected context

/-- Waits, if there is anything to wait for. -/
def pause (environment : Environment Memory) (seconds : Binary64)
    (progress : Progress Memory) : Progress Memory :=
  let nanoseconds := Delay.scaled seconds environment.settings.timeScale
  if nanoseconds = 0 then progress else progress.record (.slept nanoseconds)

/-- Does the work of a state. -/
def perform (environment : Environment Memory) (name : String) (state : State)
    (input rawInput context : Document) (progress : Progress Memory) :
    Except Failure Decision × Progress Memory :=
  match state with
  | .task _ work => work.perform environment name input rawInput progress
  | .pass _ given => (.ok (.result (given.result.getD input) given.exit.next), progress)
  | .wait _ delay =>
      let now := environment.clock progress.journal
      match delay.seconds? name input context now with
      | .error failure => (.error failure, progress)
      | .ok seconds =>
          (.ok (.result input delay.exit.next), pause environment seconds progress)
  | .choice _ branching =>
      ((branching.choose name input context).map fun next => .result input (some next),
        progress)
  | .succeed _ => (.ok (.result input none), progress)
  | .map _ items => (.ok (.result input items.exit.next), progress)
  | .parallel _ _ _ _ exit => (.ok (.result input exit.next), progress)
  | .fail failing =>
      (.error (.failed (failing.error.getD ErrorName.failed) (failing.cause.getD "")),
        progress)

/-- The output of a state and the next one, from what its work led to. -/
def conclude (state : State) (rawInput context : Document) :
    Decision → Except Failure (Document × Option String)
  | .diverted output next => .ok (output, some next)
  | .result value next => do
      let shaped ←
        match state.payload.resultSelector with
        | none => pure value
        | some selector => Template.evaluate selector value context
      let placed ← state.payload.resultPath.splice rawInput shaped
      let output ← state.frame.outputPath.select placed context
      return (output, next)

/-- Runs one state: its output and the next state, if there is one. -/
def step (environment : Environment Memory) (name : String) (state : State)
    (rawInput context : Document) (progress : Progress Memory) :
    Except Failure (Document × Option String) × Progress Memory :=
  match state.effectiveInput rawInput context with
  | .error failure => (.error failure, progress)
  | .ok input =>
      let (decision, progress) :=
        state.perform environment name input rawInput context progress
      (decision.bind (state.conclude rawInput context), progress)

end State

end StatesLanguage
