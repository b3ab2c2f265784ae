import StatesLanguage.Proofs.Progress
import StatesLanguage.Proofs.Safety

/-!
# What the limit on transitions does

The limit decides only how much of a run takes place.  A course from the start does not
depend on it, and a course together with an ending determines the run
(`Machine.run_eq_of_ending`), so two runs under different limits are compared along one
course.
-/

namespace StatesLanguage

variable {Memory : Type}

/-- The same surroundings under another limit on transitions. -/
def Environment.limitedTo (environment : Environment Memory) (limit : Nat) :
    Environment Memory :=
  { environment with settings := { environment.settings with maxTransitions := limit } }

namespace Machine

section Endings

variable {environment : Environment Memory} {machine : Machine}
  {context : ExecutionContext}

/-- One more state may be entered: the run goes as the visit of that state does. -/
theorem continueFrom_succ (allowed : Nat) (position : Position Memory)
    (entered : List String) :
    continueFrom environment machine context (allowed + 1) position.name position.document
        entered position.progress =
      match machine.visit environment context position with
      | (.error failure, progress) => (.error failure, progress)
      | (.ok (output, none), progress) =>
          (.ok ⟨context.executionId, output, (position.name :: entered).reverse⟩, progress)
      | (.ok (output, some next), progress) =>
          continueFrom environment machine context allowed next output
            (position.name :: entered) progress := by
  rw [continueFrom, visit]
  cases machine.state? position.name with
  | none => rfl
  | some state => rfl

theorem Ending.tail {allowed : Nat} {before names : List String} {name : String}
    {position : Position Memory} {result : Except Failure Completion × Progress Memory}
    (ending : Ending environment machine context allowed before (name :: names)
      position result) :
    ∃ fewer, allowed = fewer + 1 ∧
      Ending environment machine context fewer (before ++ [name]) names position result := by
  cases ending with
  | exhausted all => exact ⟨names.length, all.symm, .exhausted rfl⟩
  | failed within visited =>
      rw [List.length_cons] at within
      exact ⟨allowed - 1, by omega, .failed (by omega) visited⟩
  | @finished output progress within visited =>
      rw [List.length_cons] at within
      have fewer : names.length < allowed - 1 := by omega
      have finished := @Ending.finished _ environment machine context _ (before ++ [name])
        _ _ _ _ fewer visited
      refine ⟨allowed - 1, by omega, ?_⟩
      simpa using finished

theorem continueFrom_eq_of_ending {position target : Position Memory} {names : List String}
    (course : Course environment machine context position names target)
    {allowed : Nat} {entered : List String}
    {result : Except Failure Completion × Progress Memory}
    (ending : Ending environment machine context allowed entered.reverse names target
      result) :
    continueFrom environment machine context allowed position.name position.document
      entered position.progress = result := by
  induction course generalizing allowed entered with
  | here position =>
      cases ending with
      | exhausted all =>
          cases all
          rfl
      | failed within visited =>
          obtain ⟨fewer, rfl⟩ := Nat.exists_eq_succ_of_ne_zero (Nat.ne_of_gt within)
          rw [continueFrom_succ, visited]
      | finished within visited =>
          obtain ⟨fewer, rfl⟩ := Nat.exists_eq_succ_of_ne_zero (Nat.ne_of_gt within)
          rw [continueFrom_succ, visited]
          simp
  | @enter position target output next progress names visited onward induction =>
      obtain ⟨fewer, rfl, later⟩ := ending.tail
      rw [continueFrom_succ, visited]
      apply induction
      rwa [List.reverse_cons]

/-- A course is taken by its first states, and then by the others. -/
theorem Course.split {position target : Position Memory} {names : List String}
    (course : Course environment machine context position names target) (count : Nat)
    (within : count ≤ names.length) :
    ∃ middle, Course environment machine context position (names.take count) middle := by
  induction course generalizing count with
  | here position => exact ⟨position, by simpa using Course.here position⟩
  | @enter position target output next progress names visited onward induction =>
      cases count with
      | zero => exact ⟨position, .here position⟩
      | succ count =>
          obtain ⟨middle, first⟩ := induction count (Nat.le_of_succ_le_succ within)
          exact ⟨middle, .enter visited first⟩

end Endings

section Limits

variable {environment : Environment Memory} {machine : Machine}
  {executionId machineId : String} {input : Document} {memory : Memory}

theorem run_eq_of_ending {names : List String} {target : Position Memory}
    {result : Except Failure Completion × Progress Memory}
    (course : Course environment machine
      (runContext environment executionId machineId input)
      (machine.start executionId input memory) names target)
    (ending : Ending environment machine
      (runContext environment executionId machineId input)
      environment.settings.maxTransitions [] names target result) :
    machine.run environment executionId machineId input memory = result :=
  continueFrom_eq_of_ending course ending

theorem Course.limitedTo {context : ExecutionContext} {position target : Position Memory}
    {names : List String}
    (course : Course environment machine context position names target) (limit : Nat) :
    Course (environment.limitedTo limit) machine context position names target := by
  induction course with
  | here position => exact .here position
  | enter visited onward induction => exact .enter visited induction

theorem Course.transitions_start {context : ExecutionContext} {names : List String}
    {target : Position Memory}
    (course : Course environment machine context (machine.start executionId input memory)
      names target) :
    target.progress.transitions = names :=
  course.transitions

/-- A course that takes all transitions allowed stops before its last position. -/
theorem run_limitedTo_of_course {names : List String} {target : Position Memory}
    (course : Course environment machine
      (runContext environment executionId machineId input)
      (machine.start executionId input memory) names target) :
    machine.run (environment.limitedTo names.length) executionId machineId input memory =
      (.error (.transitionLimitExceeded names.length), target.progress) :=
  run_eq_of_ending (course.limitedTo names.length) (.exhausted rfl)

/-- A failure in a state of a valid machine is never the one of the limit. -/
theorem visit_ne_limit (valid : machine.validate = .ok ()) {context : ExecutionContext}
    {position : Position Memory} {failure : Failure} {progress : Progress Memory}
    (defined : machine.defines position.name = true)
    (visited : machine.visit environment context position = (.error failure, progress))
    (limit : Nat) : failure ≠ .transitionLimitExceeded limit := by
  obtain ⟨state, found, fails⟩ := visit_failsWith valid defined visited
  rintro rfl
  cases fails with
  | data ofData => exact ofData

/-- A course either uses up the transitions, or ends with the visit of its last state. -/
theorem Ending.exhausted_or_ended (valid : machine.validate = .ok ())
    {context : ExecutionContext} {allowed : Nat} {before names : List String}
    {target : Position Memory} {result : Except Failure Completion × Progress Memory}
    (ending : Ending environment machine context allowed before names target result)
    (defined : machine.defines target.name = true) :
    (result.1 =
        .error (.transitionLimitExceeded environment.settings.maxTransitions) ∧
      names.length = allowed ∧
      result.2.transitions = target.progress.transitions) ∨
    ((∀ limit, result.1 ≠ .error (.transitionLimitExceeded limit)) ∧
      names.length < allowed ∧
      result.2.transitions = target.progress.transitions ++ [target.name]) := by
  have entered := @visit_transitions _ environment machine context target defined
  cases ending with
  | exhausted all => exact .inl ⟨rfl, all, rfl⟩
  | failed within visited =>
      rw [visited] at entered
      refine .inr ⟨?_, within, entered⟩
      intro limit same
      exact visit_ne_limit valid defined visited limit (Except.error.inj same)
  | finished within visited =>
      rw [visited] at entered
      exact .inr ⟨nofun, within, entered⟩

/-- An ending other than the one of the limit is the same under every limit that leaves
room for it. -/
theorem Ending.limitedTo {context : ExecutionContext} {allowed limit : Nat}
    {before names : List String} {target : Position Memory}
    {result : Except Failure Completion × Progress Memory}
    (ending : Ending environment machine context allowed before names target result)
    (ended : ∀ limit, result.1 ≠ .error (.transitionLimitExceeded limit))
    (within : names.length < limit) :
    Ending (environment.limitedTo limit) machine context limit before names target
      result := by
  cases ending with
  | exhausted all => exact (ended _ rfl).elim
  | failed _ visited => exact .failed within visited
  | finished _ visited => exact .finished within visited

/-- The limit is exceeded exactly if the course of a run goes beyond that many states. -/
theorem run_exceeds_iff (valid : machine.validate = .ok ()) (limit : Nat) :
    (machine.run environment executionId machineId input memory).1 =
        .error (.transitionLimitExceeded limit) ↔
      limit = environment.settings.maxTransitions ∧
        ∃ names position,
          Course environment machine
            (runContext environment executionId machineId input)
            (machine.start executionId input memory) names position ∧
          names.length = limit := by
  constructor
  · intro exceeded
    obtain ⟨names, target, course, ending⟩ :=
      run_ending environment machine executionId machineId input memory
    have defined := course.defines valid (defines_startAt valid)
    rcases ending.exhausted_or_ended valid defined with ⟨same, all, -⟩ | ⟨ended, -, -⟩
    · rw [exceeded] at same
      cases same
      exact ⟨rfl, names, target, course, all⟩
    · exact (ended limit exceeded).elim
  · rintro ⟨rfl, names, position, course, all⟩
    rw [run_eq_of_ending course (.exhausted all)]

/-- The limit on transitions only cuts a run short.  No more states are entered than it
allows.  It is the failure of a run exactly if one more state was to be entered after that
many.  A run that ends otherwise is the same under any limit that allows the states it
entered, and under a lower one it is cut after that many of them. -/
theorem run_limitedTo (valid : machine.validate = .ok ())
    {result : Except Failure Completion × Progress Memory}
    (ran : machine.run environment executionId machineId input memory = result) :
    result.2.transitions.length ≤ environment.settings.maxTransitions ∧
    (∀ limit, result.1 = .error (.transitionLimitExceeded limit) ↔
      limit = environment.settings.maxTransitions ∧
        ∃ names position,
          Course environment machine
            (runContext environment executionId machineId input)
            (machine.start executionId input memory) names position ∧
          names.length = limit) ∧
    ((∀ limit, result.1 ≠ .error (.transitionLimitExceeded limit)) → ∀ limit,
      (result.2.transitions.length ≤ limit →
        machine.run (environment.limitedTo limit) executionId machineId input memory =
          result) ∧
      (limit < result.2.transitions.length →
        ∃ progress,
          machine.run (environment.limitedTo limit) executionId machineId input memory =
            (.error (.transitionLimitExceeded limit), progress) ∧
          progress.transitions = result.2.transitions.take limit)) := by
  obtain ⟨names, target, course, ending⟩ :=
    run_ending environment machine executionId machineId input memory
  have exceeds := @run_exceeds_iff _ environment machine executionId machineId input memory
    valid
  rw [ran] at ending exceeds
  have entered := course.transitions_start
  have defined := course.defines valid (defines_startAt valid)
  rcases ending.exhausted_or_ended valid defined with
    ⟨exceeded, all, kept⟩ | ⟨ended, within, added⟩
  · have counted : result.2.transitions.length = names.length := by rw [kept, entered]
    exact ⟨by omega, exceeds, fun ended => (ended _ exceeded).elim⟩
  · have counted : result.2.transitions.length = names.length + 1 := by
      rw [added, entered, List.length_append, List.length_singleton]
    refine ⟨by omega, exceeds, fun _ limit => ⟨?_, ?_⟩⟩
    · intro enough
      apply run_eq_of_ending (course.limitedTo limit)
      exact ending.limitedTo ended (by omega)
    · intro fewer
      have within : limit ≤ names.length := by omega
      obtain ⟨middle, first⟩ := course.split limit within
      have cut := run_limitedTo_of_course first
      rw [List.length_take_of_le within] at cut
      refine ⟨middle.progress, cut, ?_⟩
      rw [first.transitions_start, added, entered, List.take_append_of_le_length within]

end Limits

end Machine

/-- Resolvers that are busy for as many questions as they remember, and then echo. -/
def Environment.busy : Environment Nat where
  resolvers :=
    { knows := fun _ => true
      invoke := fun _ input left =>
        match left with
        | 0 => (.ok input, 0)
        | left + 1 => (.error ⟨"Busy", ""⟩, left) }
  settings := Settings.instant
  clock _ := ⟨0, 0⟩

/-- A task that is entered again each time it fails. -/
def Machine.asker : Machine where
  startAt := "Ask"
  states :=
    [("Ask", .task ⟨none, .absent, .absent⟩
        { resource := "desk"
          payload := ⟨none, none, .absent⟩
          recovery := ⟨[], [⟨["States.ALL"], .null, "Ask"⟩]⟩
          timeoutSeconds := none
          timeoutSecondsPath := none
          heartbeatSeconds := none
          heartbeatSecondsPath := none
          exit := ⟨none, true⟩ })]
  comment := none
  version := none
  timeoutSeconds := none

theorem Machine.asker_limitedTo :
    asker.validate = .ok () ∧
      (asker.run .busy "run" "desk" .empty 2).1 =
        .ok ⟨"run", .empty, ["Ask", "Ask", "Ask"]⟩ ∧
      asker.run (Environment.busy.limitedTo 3) "run" "desk" .empty 2 =
        asker.run .busy "run" "desk" .empty 2 ∧
      ∃ progress,
        asker.run (Environment.busy.limitedTo 2) "run" "desk" .empty 2 =
          (.error (.transitionLimitExceeded 2), progress) ∧
        progress.transitions = ["Ask", "Ask"] := by
  have valid : asker.validate = .ok () := rfl
  have finished : (asker.run .busy "run" "desk" .empty 2).1 =
      .ok ⟨"run", .empty, ["Ask", "Ask", "Ask"]⟩ := by decide +kernel
  have entered : (asker.run .busy "run" "desk" .empty 2).2.transitions =
      ["Ask", "Ask", "Ask"] := by decide +kernel
  have ended : ∀ limit, (asker.run .busy "run" "desk" .empty 2).1 ≠
      .error (.transitionLimitExceeded limit) := by
    intro limit
    rw [finished]
    exact nofun
  have law :=
    (@run_limitedTo _ .busy asker "run" "desk" .empty 2 valid _ rfl).2.2 ended
  rw [entered] at law
  exact ⟨valid, finished, (law 3).1 (by decide), (law 2).2 (by decide)⟩

end StatesLanguage
