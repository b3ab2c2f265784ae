import StatesLanguage.Document.Record

/-!
# Settings

What a run falls back to where a machine leaves something open.  Every member has a
default, and reading does not check ranges.
-/

namespace StatesLanguage

/-- What a Retry entry falls back to. -/
structure RetryDefaults where
  intervalSeconds : Binary64
  backoffRate : Binary64
  maxAttempts : Nat
  deriving DecidableEq

/-- What a task does that nothing resolves. -/
inductive UnresolvedTask where
  | passThrough
  | fail
  deriving DecidableEq, Repr

/-- The settings of a run; all delays are multiplied by the time scale. -/
structure Settings where
  retry : RetryDefaults
  timeScale : Binary64
  unresolvedTask : UnresolvedTask
  maxTransitions : Nat
  deriving DecidableEq

/-- One second, doubled each time, three times. -/
def RetryDefaults.standard : RetryDefaults :=
  ⟨Binary64.ofNat 1, Binary64.ofNat 2, 3⟩

/-- The settings that hold unless others are given. -/
def Settings.standard : Settings :=
  ⟨.standard, Binary64.ofNat 1, .passThrough, 25000⟩

/-- The settings without any delay. -/
def Settings.instant : Settings :=
  { Settings.standard with timeScale := Binary64.zero false }

namespace UnresolvedTask

def name : UnresolvedTask → String
  | .passThrough => "pass_through"
  | .fail => "fail"

def ofName (name : String) : Except ShapeFault UnresolvedTask :=
  match [UnresolvedTask.passThrough, .fail].find? (·.name = name) with
  | some choice => .ok choice
  | none => .error .wrongShape

/-- A choice is named, or the only member of an object, and is then `null`. -/
def shape : Shape UnresolvedTask
  | .string name => ofName name
  | .object [(name, .null)] => ofName name
  | _ => .error .wrongShape

end UnresolvedTask

open RecordReader

def RetryDefaults.reader : RecordReader RetryDefaults :=
  RetryDefaults.mk
    <$> withDefault "interval_seconds" Shape.real RetryDefaults.standard.intervalSeconds
    <*> withDefault "backoff_rate" Shape.real RetryDefaults.standard.backoffRate
    <*> withDefault "max_attempts" Shape.word32 RetryDefaults.standard.maxAttempts

def Settings.reader : RecordReader Settings :=
  Settings.mk
    <$> withDefault "retry" RetryDefaults.reader.read RetryDefaults.standard
    <*> withDefault "time_scale" Shape.real Settings.standard.timeScale
    <*> withDefault "unresolved_task" UnresolvedTask.shape
      Settings.standard.unresolvedTask
    <*> withDefault "max_transitions" Shape.word32 Settings.standard.maxTransitions

def RetryDefaults.toDocument (defaults : RetryDefaults) : Document :=
  Document.ofMembers
    [("interval_seconds", .number (.real defaults.intervalSeconds)),
      ("backoff_rate", .number (.real defaults.backoffRate)),
      ("max_attempts", Document.ofNat defaults.maxAttempts)]

def Settings.toDocument (settings : Settings) : Document :=
  Document.ofMembers
    [("retry", settings.retry.toDocument),
      ("time_scale", .number (.real settings.timeScale)),
      ("unresolved_task", .string settings.unresolvedTask.name),
      ("max_transitions", Document.ofNat settings.maxTransitions)]

end StatesLanguage
