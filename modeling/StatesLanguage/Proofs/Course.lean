import StatesLanguage.Execution.Run
import StatesLanguage.Proofs.Step

/-!
# The course of a run

A run enters one state after another.  A `Position` is a run that is about to enter a
state, `Machine.visit` is what entering it leads to, and a `Machine.Course` goes from
one position to another.  `Machine.run_ending` says that every run is a course from its
start together with one of three endings, so that what a visit preserves is preserved
by a whole run.
-/

namespace StatesLanguage

variable {Memory : Type}

/-- A run that is about to enter a state. -/
structure Position (Memory : Type) where
  name : String
  document : Document
  progress : Progress Memory

namespace Position

/-- The progress of a run that has entered the state. -/
def entered (position : Position Memory) (state : State) : Progress Memory :=
  position.progress.record (.entered position.name state.kind)

/-- The context document that the state sees when it is entered. -/
def contextDocument (environment : Environment Memory) (context : ExecutionContext)
    (position : Position Memory) (state : State) : Document :=
  context.forState position.name (environment.clock (position.entered state).journal)

end Position

namespace Machine

/-- What stays the same for a run. -/
def runContext (environment : Environment Memory) (executionId machineId : String)
    (input : Document) : ExecutionContext :=
  ⟨executionId, machineId, input, environment.clock []⟩

/-- A run before its first state. -/
def start (machine : Machine) (executionId : String) (input : Document)
    (memory : Memory) : Position Memory :=
  ⟨machine.startAt, input, ⟨memory, [.started executionId machine.startAt]⟩⟩

section Runs

variable (environment : Environment Memory) (machine : Machine)
  (context : ExecutionContext)

/-- What entering the state of a position leads to. -/
def visit (position : Position Memory) :
    Except Failure (Document × Option String) × Progress Memory :=
  match machine.state? position.name with
  | none => (.error (.unknownState position.name), position.progress)
  | some state =>
      state.step environment position.name position.document
        (position.contextDocument environment context state) (position.entered state)

/-- From one position to another through the states named, in order. -/
inductive Course : Position Memory → List String → Position Memory → Prop where
  | here (position : Position Memory) : Course position [] position
  | enter {position target : Position Memory} {output : Document} {next : String}
      {progress : Progress Memory} {names : List String}
      (visited : machine.visit environment context position =
        (.ok (output, some next), progress))
      (onward : Course ⟨next, output, progress⟩ names target) :
      Course position (position.name :: names) target

/-- The outcome of a run that may enter a number of states, after a course through
some names to a position.  The states `before` were entered earlier still. -/
inductive Ending (allowed : Nat) (before names : List String)
    (position : Position Memory) : Except Failure Completion × Progress Memory → Prop where
  /-- The number is used up. -/
  | exhausted (all : names.length = allowed) :
      Ending allowed before names position
        (.error (.transitionLimitExceeded environment.settings.maxTransitions),
          position.progress)
  /-- Entering the state of the position fails. -/
  | failed {failure : Failure} {progress : Progress Memory}
      (within : names.length < allowed)
      (visited : machine.visit environment context position = (.error failure, progress)) :
      Ending allowed before names position (.error failure, progress)
  /-- The state of the position is left for good. -/
  | finished {output : Document} {progress : Progress Memory}
      (within : names.length < allowed)
      (visited : machine.visit environment context position =
        (.ok (output, none), progress)) :
      Ending allowed before names position
        (.ok ⟨context.executionId, output, before ++ names ++ [position.name]⟩, progress)

end Runs

variable {environment : Environment Memory} {machine : Machine}
  {context : ExecutionContext}

/-- A longer course ends as the shorter one after its first state does. -/
theorem Ending.cons {allowed : Nat} {before names : List String} {name : String}
    {position : Position Memory} {result : Except Failure Completion × Progress Memory}
    (ending : Ending environment machine context allowed (before ++ [name]) names
      position result) :
    Ending environment machine context (allowed + 1) before (name :: names)
      position result := by
  cases ending with
  | exhausted all => exact .exhausted (by simp [all])
  | failed within visited => exact .failed (by simp [within]) visited
  | finished within visited =>
      have longer : (name :: names).length < allowed + 1 := by simp [within]
      have finished := @Ending.finished _ environment machine context _ before _ _ _ _
        longer visited
      simpa using finished

/-- Every run is a course with an ending.  The induction is on the number of states that may
still be entered; the states entered so far are kept latest first. -/
theorem continueFrom_ending (allowed : Nat) (position : Position Memory)
    (entered : List String) :
    ∃ names target, Course environment machine context position names target ∧
      Ending environment machine context allowed entered.reverse names target
        (continueFrom environment machine context allowed position.name position.document
          entered position.progress) := by
  induction allowed generalizing position entered with
  | zero => exact ⟨[], position, .here position, .exhausted rfl⟩
  | succ allowed induction =>
      rw [continueFrom]
      cases found : machine.state? position.name with
      | none =>
          have visited : machine.visit environment context position =
              (.error (.unknownState position.name), position.progress) := by
            simp [visit, found]
          exact ⟨[], position, .here position, .failed (Nat.succ_pos _) visited⟩
      | some state =>
          have visited : machine.visit environment context position =
              state.step environment position.name position.document
                (position.contextDocument environment context state)
                (position.entered state) := by
            simp [visit, found]
          simp only [Position.contextDocument, Position.entered] at visited
          dsimp only
          split
          · rename_i failure progress stepped
            rw [stepped] at visited
            exact ⟨[], position, .here position, .failed (Nat.succ_pos _) visited⟩
          · rename_i output progress stepped
            rw [stepped] at visited
            have finished := @Ending.finished _ environment machine context (allowed + 1)
              entered.reverse [] position _ _ (Nat.succ_pos _) visited
            exact ⟨[], position, .here position, by simpa using finished⟩
          · rename_i output next progress stepped
            rw [stepped] at visited
            obtain ⟨names, target, onward, ending⟩ :=
              induction ⟨next, output, progress⟩ (position.name :: entered)
            rw [List.reverse_cons] at ending
            exact ⟨position.name :: names, target, .enter visited onward, ending.cons⟩

/-- A run is a course from its start, and it ends in one of the ways listed. -/
theorem run_ending (environment : Environment Memory) (machine : Machine)
    (executionId machineId : String) (input : Document) (memory : Memory) :
    ∃ names target,
      Course environment machine (runContext environment executionId machineId input)
        (machine.start executionId input memory) names target ∧
      Ending environment machine (runContext environment executionId machineId input)
        environment.settings.maxTransitions [] names target
        (machine.run environment executionId machineId input memory) :=
  continueFrom_ending _ (machine.start executionId input memory) []

/-- A visit that goes on leaves a state of the machine for the next one. -/
theorem visit_eq_ok {position : Position Memory} {output : Document}
    {next : Option String} {progress : Progress Memory}
    (visited : machine.visit environment context position = (.ok (output, next), progress)) :
    ∃ state, machine.state? position.name = some state ∧ state.LeavesFor next := by
  unfold visit at visited
  split at visited
  · cases visited
  · rename_i state found
    exact ⟨state, found, State.step_leavesFor visited⟩

/-- A course through a valid machine ends before a state that is defined. -/
theorem Course.defines (valid : machine.validate = .ok ())
    {position target : Position Memory} {names : List String}
    (course : Course environment machine context position names target)
    (defined : machine.defines position.name = true) :
    machine.defines target.name = true := by
  induction course with
  | here position => exact defined
  | enter visited onward induction =>
      obtain ⟨state, found, leaves⟩ := visit_eq_ok visited
      exact induction (leaves.defined (machine.validate_state valid found))

end Machine

/-- Resolvers that know every task and fail at it with one error. -/
def Environment.refusing (error : String) : Environment Unit where
  resolvers := ⟨fun _ => true, fun _ _ memory => (.error ⟨error, ""⟩, memory)⟩
  settings := Settings.instant
  clock _ := ⟨0, 0⟩

/-- A task whose errors are sorted by name; there is a rule for one name only. -/
def Machine.sorter : Machine where
  startAt := "Ask"
  states :=
    [("Ask", .task ⟨none, .absent, .absent⟩
        { resource := "desk"
          payload := ⟨none, none, .absent⟩
          recovery := ⟨[], [⟨["States.ALL"], .path "$.refusal", "Sort"⟩]⟩
          timeoutSeconds := none
          timeoutSecondsPath := none
          heartbeatSeconds := none
          heartbeatSecondsPath := none
          exit := ⟨none, true⟩ }),
      ("Done", .succeed ⟨none, .absent, .absent⟩),
      ("Sort", .choice ⟨none, .absent, .absent⟩
        { rules :=
            [.comparison
              ⟨"$.refusal.Error", .compare .string .equals (.literal (.string "Busy"))⟩
              (some "Done")]
          default := none
          exit := ⟨none, false⟩ })]
  comment := none
  version := none
  timeoutSeconds := none

end StatesLanguage
