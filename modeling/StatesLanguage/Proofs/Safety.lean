import Mathlib.Control.Monad.Basic
import StatesLanguage.Proofs.Course

/-!
# Valid machines do not go wrong

A run of a valid machine is never lost: it enters defined states only.  What can still
fail is listed by `State.FailsWith`, with the state at which it fails, and besides that
there is only the limit on transitions.
-/

namespace StatesLanguage

variable {Memory : Type}

/-- The failures of loading a machine. -/
def Failure.IsOfLoading : Failure → Prop
  | .unknownState _ => True
  | .unsupportedOperator _ => True
  | .unreadable _ => True
  | .inaccessible _ => True
  | _ => False

theorem Failure.IsOfData.not_isOfLoading {failure : Failure}
    (ofData : failure.IsOfData) : ¬failure.IsOfLoading := by
  cases failure with
  | invalidPath detail => exact id
  | invalidFunction detail => exact id
  | _ => exact ofData.elim

theorem State.FailsWith.not_isOfLoading {name : String} {rawInput context : Document}
    {state : State} {failure : Failure}
    (fails : state.FailsWith name rawInput context failure) : ¬failure.IsOfLoading := by
  cases fails with
  | data ofData => exact ofData.not_isOfLoading
  | unmatched selected untrue without => exact id
  | task taskError => exact id
  | failed => exact id
  | timestamp detail literal unreadable => exact id

namespace Machine

/-- A run from a position reaches a state and fails there, in one of the ways listed. -/
def FailsInState (environment : Environment Memory) (machine : Machine)
    (context : ExecutionContext) (start : Position Memory) (failure : Failure) : Prop :=
  ∃ names position state,
    Course environment machine context start names position ∧
      machine.state? position.name = some state ∧
      (machine.visit environment context position).1 = .error failure ∧
      state.FailsWith position.name position.document
        (position.contextDocument environment context state) failure

variable {environment : Environment Memory} {machine : Machine}
  {context : ExecutionContext}

/-- Entering a defined state of a valid machine fails in one of the ways listed. -/
theorem visit_failsWith (valid : machine.validate = .ok ())
    {position : Position Memory} {failure : Failure} {progress : Progress Memory}
    (defined : machine.defines position.name = true)
    (visited : machine.visit environment context position = (.error failure, progress)) :
    ∃ state, machine.state? position.name = some state ∧
      state.FailsWith position.name position.document
        (position.contextDocument environment context state) failure := by
  obtain ⟨state, found⟩ := exists_state defined
  simp only [visit, found] at visited
  exact ⟨state, found, State.step_failsWith (machine.validate_state valid found) visited⟩

/-- The run of a valid machine fails at the limit on transitions, or in a state that it
reaches, in one of the ways listed for the state; it never fails as loading does. -/
theorem run_failsInState (valid : machine.validate = .ok ())
    {executionId machineId : String} {input : Document} {memory : Memory}
    {failure : Failure}
    (failed :
      (machine.run environment executionId machineId input memory).1 = .error failure) :
    ¬failure.IsOfLoading ∧
      (failure = .transitionLimitExceeded environment.settings.maxTransitions ∨
        FailsInState environment machine
          (runContext environment executionId machineId input)
          (machine.start executionId input memory) failure) := by
  obtain ⟨names, position, course, ending⟩ :=
    run_ending environment machine executionId machineId input memory
  generalize machine.run environment executionId machineId input memory = result
    at failed ending
  cases ending with
  | exhausted all =>
      cases failed
      exact ⟨id, .inl rfl⟩
  | failed within visited =>
      cases failed
      have defined := course.defines valid (defines_startAt valid)
      obtain ⟨state, found, fails⟩ := visit_failsWith valid defined visited
      have same := congrArg Prod.fst visited
      exact ⟨fails.not_isOfLoading, .inr ⟨names, position, state, course, found, same, fails⟩⟩
  | finished within visited => cases failed

end Machine

theorem Machine.sorter_failsInState :
    sorter.validate = .ok () ∧
      (sorter.run (.refusing "Closed") "run" "desk" .empty ()).1 =
        .error (.noChoiceMatched "Sort") ∧
      FailsInState (.refusing "Closed") sorter
        (runContext (.refusing "Closed") "run" "desk" .empty)
        (sorter.start "run" .empty ()) (.noChoiceMatched "Sort") := by
  have valid : sorter.validate = .ok () := rfl
  have failed : (sorter.run (.refusing "Closed") "run" "desk" .empty ()).1 =
      .error (.noChoiceMatched "Sort") := by decide +kernel
  refine ⟨valid, failed, ?_⟩
  rcases (run_failsInState valid failed).2 with limit | inState
  · cases limit
  · exact inState

end StatesLanguage
