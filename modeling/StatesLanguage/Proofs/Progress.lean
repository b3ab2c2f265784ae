import StatesLanguage.Proofs.Course
import StatesLanguage.Proofs.Retry

/-!
# What the progress of a run keeps

While a state does its work, its run makes progress in two ways only: events are recorded,
and resolvers are asked.  `Environment.Keeps` is what has to be checked of these two for a
property to outlast every state; entering a state is left to the property itself.
-/

namespace StatesLanguage

variable {Memory : Type}

/-- No event within a state and no answer of a resolver takes the property away. -/
structure Environment.Keeps (environment : Environment Memory)
    (kept : Progress Memory → Prop) : Prop where
  record : ∀ (event : Event) (progress : Progress Memory),
    (∀ name kind, event ≠ .entered name kind) → kept progress →
      kept (progress.record event)
  invoke : ∀ (resolver : String) (input : Document) (progress : Progress Memory),
    kept progress → kept
      { progress with
        memory := (environment.resolvers.invoke resolver input progress.memory).2 }

namespace RetryPolicy

variable {Progress : Type} {kept : Progress → Prop} {workplace : Workplace Progress}

/-- Attempts end, stop, or go on with budgets that grant less. -/
theorem attempts_induction (policy : RetryPolicy) (workplace : Workplace Progress)
    {motive : Nat → List Budget → Progress → Prop}
    (ends : ∀ number budgets progress value after,
      workplace.attempt number progress = (.ok value, after) →
      motive number budgets progress)
    (stops : ∀ number budgets progress taskError after,
      workplace.attempt number progress = (.error taskError, after) →
      Budget.charge policy.defaults taskError.error budgets = none →
      motive number budgets progress)
    (retries : ∀ number budgets progress taskError after delay charged,
      workplace.attempt number progress = (.error taskError, after) →
      Budget.charge policy.defaults taskError.error budgets = some (delay, charged) →
      motive (number + 1) charged (policy.paused workplace delay after) →
      motive number budgets progress)
    (number : Nat) (budgets : List Budget) (progress : Progress) :
    motive number budgets progress := by
  induction left_eq : Budget.totalLeft policy.defaults budgets using Nat.strongRecOn
    generalizing number budgets progress with
  | ind left induction =>
      cases answered : workplace.attempt number progress with
      | mk outcome after =>
          cases outcome with
          | ok value => exact ends _ _ _ value after answered
          | error taskError =>
              cases charged : Budget.charge policy.defaults taskError.error budgets with
              | none => exact stops _ _ _ taskError after answered charged
              | some grant =>
                  obtain ⟨delay, remaining⟩ := grant
                  have fewer := Budget.totalLeft_charge charged
                  apply retries _ _ _ taskError after delay remaining answered charged
                  exact induction _ (by omega) _ _ _ rfl

/-- What holds after the first attempt and is kept by attempts and pauses, holds after the
last one. -/
theorem attemptFrom_keeps
    (attempted : ∀ number progress, kept progress →
      kept (workplace.attempt number progress).2)
    (rested : ∀ nanoseconds progress, kept progress →
      kept (workplace.pause nanoseconds progress))
    (policy : RetryPolicy) (number : Nat) (budgets : List Budget) (progress : Progress)
    (first : kept (workplace.attempt number progress).2) :
    kept (policy.attemptFrom workplace number budgets progress).2 := by
  induction number, budgets, progress using attempts_induction policy workplace with
  | ends number budgets progress value after answered =>
      rw [answered] at first
      rwa [attemptFrom_ok answered]
  | stops number budgets progress taskError after answered refused =>
      rw [answered] at first
      rwa [attemptFrom_stop answered refused]
  | retries number budgets progress taskError after delay charged answered granted induction =>
      rw [answered] at first
      have pausing : kept (policy.paused workplace delay after) := by
        unfold paused
        split
        · exact first
        · exact rested _ after first
      rw [attemptFrom_retry answered granted]
      exact induction (attempted (number + 1) _ pausing)

end RetryPolicy

section Keeping

variable {environment : Environment Memory} {kept : Progress Memory → Prop}

theorem Task.attempt_keeps (keeps : environment.Keeps kept) (work : Task)
    (resolver : String) (input : Document) (number : Nat) (progress : Progress Memory)
    (before : kept progress) :
    kept ((work.workplace environment resolver input).attempt number progress).2 := by
  have attempted : kept (progress.record (.attempted work.resource number)) :=
    keeps.record _ progress (by simp) before
  have asked := keeps.record (.invoked resolver input) _ (by simp) attempted
  exact keeps.invoke resolver input _ asked

def Task.policy (environment : Environment Memory) (work : Task) : RetryPolicy :=
  ⟨work.recovery.catchers, environment.settings.retry, environment.settings.timeScale⟩

/-- What a task makes of the end of its attempts. -/
def Task.decision (name : String) (work : Task) (rawInput : Document) :
    Resolution → Except Failure Decision
  | .completed value _ => .ok (.result value work.exit.next)
  | .caught taskError index =>
      match work.recovery.catchers[index]? with
      | some catcher =>
          (catcher.resultPath.splice rawInput taskError.toDocument).map
            (.diverted · catcher.next)
      | none => .error (.taskFailure name taskError)
  | .failed taskError => .error (.taskFailure name taskError)

/-- A task with a resolver makes the progress that its attempts make. -/
theorem Task.perform_eq {name resolver : String} {work : Task}
    (found : work.resolver? environment.resolvers name = some resolver)
    (input rawInput : Document) (progress : Progress Memory) :
    work.perform environment name input rawInput progress =
      (work.decision name rawInput
        ((work.policy environment).run work.recovery.retriers
          (work.workplace environment resolver input) progress).1,
        ((work.policy environment).run work.recovery.retriers
          (work.workplace environment resolver input) progress).2) := by
  unfold perform policy
  rw [found]
  dsimp only
  generalize RetryPolicy.run _ work.recovery.retriers
    (work.workplace environment resolver input) progress = ended
  obtain ⟨resolution, after⟩ := ended
  cases resolution with
  | completed value attempts => rfl
  | failed taskError => rfl
  | caught taskError index =>
      simp only [decision]
      cases work.recovery.catchers[index]? with
      | none => rfl
      | some catcher => rfl

/-- What the settings make of a task that nothing resolves. -/
def Task.withoutResolver (environment : Environment Memory) (name : String) (work : Task)
    (input : Document) : Except Failure Decision :=
  match environment.settings.unresolvedTask with
  | .passThrough => .ok (.result input work.exit.next)
  | .fail =>
      .error (.taskFailure name
        ⟨ErrorName.noResolver,
          "no resolver registered for resource '" ++ work.resource ++ "'"⟩)

/-- A task without a resolver makes no progress. -/
theorem Task.perform_of_unresolved {name : String} {work : Task}
    (missing : work.resolver? environment.resolvers name = none)
    (input rawInput : Document) (progress : Progress Memory) :
    work.perform environment name input rawInput progress =
      (work.withoutResolver environment name input, progress) := by
  unfold Task.perform
  rw [missing]
  unfold withoutResolver
  cases environment.settings.unresolvedTask with
  | passThrough => rfl
  | fail => rfl

/-- What the first attempt at a task has led to is kept by the others. -/
theorem Task.perform_keeps_first (keeps : environment.Keeps kept) {name resolver : String}
    {work : Task} (found : work.resolver? environment.resolvers name = some resolver)
    (input rawInput : Document) (progress : Progress Memory)
    (first : kept ((work.workplace environment resolver input).attempt 1 progress).2) :
    kept (work.perform environment name input rawInput progress).2 := by
  rw [Task.perform_eq found]
  apply RetryPolicy.attemptFrom_keeps (work.attempt_keeps keeps resolver input)
  · intro nanoseconds progress before
    exact keeps.record (.slept nanoseconds) progress (by simp) before
  · exact first

theorem Task.perform_keeps (keeps : environment.Keeps kept) (name : String) (work : Task)
    (input rawInput : Document) (progress : Progress Memory) (before : kept progress) :
    kept (work.perform environment name input rawInput progress).2 := by
  cases found : work.resolver? environment.resolvers name with
  | none =>
      rw [Task.perform_of_unresolved found]
      exact before
  | some resolver =>
      apply Task.perform_keeps_first keeps found
      exact work.attempt_keeps keeps resolver input 1 progress before

namespace State

theorem perform_keeps (keeps : environment.Keeps kept) (name : String) (state : State)
    (input rawInput context : Document) (progress : Progress Memory)
    (before : kept progress) :
    kept (state.perform environment name input rawInput context progress).2 := by
  cases state with
  | task frame work => exact work.perform_keeps keeps name input rawInput progress before
  | wait frame delay =>
      simp only [perform]
      split
      · exact before
      · unfold pause
        dsimp only
        split
        · exact before
        · exact keeps.record _ progress (by simp) before
  | _ => exact before

/-- What events and answers keep, a step keeps, also one that fails. -/
theorem step_keeps (keeps : environment.Keeps kept) (name : String) (state : State)
    (rawInput context : Document) (progress : Progress Memory) (before : kept progress) :
    kept (state.step environment name rawInput context progress).2 := by
  unfold step
  split
  · exact before
  · exact state.perform_keeps keeps name _ rawInput context progress before

end State

end Keeping

/-- The states that were entered up to some progress, in order. -/
def Progress.transitions (progress : Progress Memory) : List String :=
  Journal.transitions progress.journal

theorem Progress.transitions_entered (progress : Progress Memory) (name : String)
    (kind : StateKind) :
    (progress.record (.entered name kind)).transitions = progress.transitions ++ [name] := by
  simp [transitions, record, Journal.transitions]

theorem Progress.transitions_record {event : Event}
    (other : ∀ name kind, event ≠ .entered name kind) (progress : Progress Memory) :
    (progress.record event).transitions = progress.transitions := by
  cases event with
  | entered name kind => exact (other name kind rfl).elim
  | _ => simp [transitions, record, Journal.transitions]

theorem Environment.keeps_transitions (environment : Environment Memory)
    (names : List String) :
    environment.Keeps fun progress => progress.transitions = names := by
  constructor
  · intro event progress other before
    rwa [Progress.transitions_record other]
  · intro resolver input progress before
    exact before

namespace Machine

variable {environment : Environment Memory} {machine : Machine}
  {context : ExecutionContext}

/-- Entering a defined state adds its name to those of the states entered, whatever the
state leads to. -/
theorem visit_transitions {position : Position Memory}
    (defined : machine.defines position.name = true) :
    (machine.visit environment context position).2.transitions =
      position.progress.transitions ++ [position.name] := by
  obtain ⟨state, found⟩ := exists_state defined
  have entered : (position.entered state).transitions =
      position.progress.transitions ++ [position.name] :=
    Progress.transitions_entered _ _ _
  simp only [visit, found]
  exact State.step_keeps (environment.keeps_transitions _) _ state _ _ _ entered

theorem Course.transitions {position target : Position Memory} {names : List String}
    (course : Course environment machine context position names target) :
    target.progress.transitions = position.progress.transitions ++ names := by
  induction course with
  | here position => rw [List.append_nil]
  | @enter position target output next progress names visited onward induction =>
      obtain ⟨state, found, -⟩ := visit_eq_ok visited
      have defined : machine.defines position.name = true := by
        simp [Machine.defines, found]
      have entered := @visit_transitions _ environment machine context position defined
      rw [visited] at entered
      rw [induction, entered, List.append_assoc, List.singleton_append]

end Machine

end StatesLanguage
