import StatesLanguage.Execution.Step

/-!
# Runs of a machine

A run enters one state after another, from the first one until a state names no next
one.  It never enters more states than the settings allow.
-/

namespace StatesLanguage

/-- What a finished run reports. -/
structure Completion where
  executionId : String
  output : Document
  /-- The states that were entered, in order. -/
  transitions : List String
  deriving DecidableEq

namespace Machine

variable {Memory : Type}

/-- Enters states as long as there is a next one.  `allowed` states may still be
entered, and `entered` are those before, the latest first. -/
def continueFrom (environment : Environment Memory) (machine : Machine)
    (context : ExecutionContext) :
    (allowed : Nat) → (name : String) → (document : Document) →
      (entered : List String) → Progress Memory →
        Except Failure Completion × Progress Memory
  | 0, _, _, _, progress =>
      (.error (.transitionLimitExceeded environment.settings.maxTransitions), progress)
  | allowed + 1, name, document, entered, progress =>
      match machine.state? name with
      | none => (.error (.unknownState name), progress)
      | some state =>
          let progress := progress.record (.entered name state.kind)
          let contextDocument :=
            context.forState name (environment.clock progress.journal)
          match state.step environment name document contextDocument progress with
          | (.error failure, progress) => (.error failure, progress)
          | (.ok (output, none), progress) =>
              (.ok ⟨context.executionId, output, (name :: entered).reverse⟩, progress)
          | (.ok (output, some next), progress) =>
              continueFrom environment machine context allowed next output
                (name :: entered) progress

/-- Runs a machine on an input.  What resolvers remember goes in and comes out. -/
def run (environment : Environment Memory) (machine : Machine)
    (executionId machineId : String) (input : Document) (memory : Memory) :
    Except Failure Completion × Progress Memory :=
  let progress : Progress Memory := ⟨memory, [.started executionId machine.startAt]⟩
  let context : ExecutionContext :=
    ⟨executionId, machineId, input, environment.clock []⟩
  continueFrom environment machine context environment.settings.maxTransitions
    machine.startAt input [] progress

end Machine

end StatesLanguage
