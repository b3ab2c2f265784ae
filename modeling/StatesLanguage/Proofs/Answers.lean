import StatesLanguage.Proofs.Limit

/-!
# What resolvers answer during a run

A journal holds the questions that resolvers are asked, but not their answers.  Under
`Environment.logged` the answers are kept beside the memory of the resolvers; everything
else happens as it does without them (`Machine.visit_logged`).
-/

namespace StatesLanguage

variable {Memory : Type}

/-- Answers of resolvers, in order. -/
abbrev AnswerLog := List (Except TaskError Document)

/-- No answer is an error. -/
def AnswerLog.Flawless (answers : AnswerLog) : Prop :=
  ∀ answer, answer ∈ answers → ∃ value, answer = .ok value

/-- The same surroundings, with a log of the answers beside the memory. -/
def Environment.logged (environment : Environment Memory) :
    Environment (Memory × AnswerLog) where
  resolvers :=
    { knows := environment.resolvers.knows
      invoke := fun resolver input memory =>
        ((environment.resolvers.invoke resolver input memory.1).1,
          (environment.resolvers.invoke resolver input memory.1).2,
          memory.2 ++ [(environment.resolvers.invoke resolver input memory.1).1]) }
  settings := environment.settings
  clock := environment.clock

namespace Progress

def answers (progress : Progress (Memory × AnswerLog)) : AnswerLog :=
  progress.memory.2

def unlogged (progress : Progress (Memory × AnswerLog)) : Progress Memory :=
  ⟨progress.memory.1, progress.journal⟩

/-- The progress with an empty log. -/
def logged (progress : Progress Memory) : Progress (Memory × AnswerLog) :=
  ⟨(progress.memory, []), progress.journal⟩

end Progress

theorem Environment.logged_keeps_answer (environment : Environment Memory)
    (answer : Except TaskError Document) :
    environment.logged.Keeps fun progress => answer ∈ progress.answers := by
  constructor
  · intro event progress other before
    exact before
  · intro resolver input progress before
    exact List.mem_append_left _ before

/-- Attempts go alike in two workplaces if one shows the progress of the other. -/
theorem RetryPolicy.attemptFrom_map {Detail Progress : Type} (view : Detail → Progress)
    (workplace : Workplace Progress) (detailed : Workplace Detail)
    (attempted : ∀ number detail, workplace.attempt number (view detail) =
      ((detailed.attempt number detail).1, view (detailed.attempt number detail).2))
    (rested : ∀ nanoseconds detail, workplace.pause nanoseconds (view detail) =
      view (detailed.pause nanoseconds detail))
    (policy : RetryPolicy) (number : Nat) (budgets : List Budget) (detail : Detail) :
    policy.attemptFrom workplace number budgets (view detail) =
      ((policy.attemptFrom detailed number budgets detail).1,
        view (policy.attemptFrom detailed number budgets detail).2) := by
  induction number, budgets, detail using attempts_induction policy detailed with
  | ends number budgets detail value after answered =>
      have shown := attempted number detail
      rw [answered] at shown
      rw [attemptFrom_ok answered, attemptFrom_ok shown]
  | stops number budgets detail taskError after answered refused =>
      have shown := attempted number detail
      rw [answered] at shown
      rw [attemptFrom_stop answered refused, attemptFrom_stop shown refused]
  | retries number budgets detail taskError after delay charged answered granted induction =>
      have shown := attempted number detail
      rw [answered] at shown
      have pausing : policy.paused workplace delay (view after) =
          view (policy.paused detailed delay after) := by
        unfold paused
        split
        · rfl
        · exact rested _ after
      rw [attemptFrom_retry answered granted, attemptFrom_retry shown granted, pausing]
      exact induction

theorem Task.perform_logged (environment : Environment Memory) (name : String) (work : Task)
    (input rawInput : Document) (progress : Progress (Memory × AnswerLog)) :
    work.perform environment name input rawInput progress.unlogged =
      ((work.perform environment.logged name input rawInput progress).1,
        (work.perform environment.logged name input rawInput progress).2.unlogged) := by
  cases found : work.resolver? environment.resolvers name with
  | none =>
      have same : work.resolver? environment.logged.resolvers name = none := found
      rw [Task.perform_of_unresolved found, Task.perform_of_unresolved same]
      rfl
  | some resolver =>
      have same : work.resolver? environment.logged.resolvers name = some resolver := found
      have shown : (work.policy environment).run work.recovery.retriers
          (work.workplace environment resolver input) progress.unlogged = _ :=
        RetryPolicy.attemptFrom_map Progress.unlogged
          (work.workplace environment resolver input)
          (work.workplace environment.logged resolver input)
          (fun _ _ => rfl) (fun _ _ => rfl) _ _ _ progress
      rw [perform_eq found, perform_eq same, shown]
      rfl

namespace State

theorem perform_logged (environment : Environment Memory) (name : String) (state : State)
    (input rawInput context : Document) (progress : Progress (Memory × AnswerLog)) :
    state.perform environment name input rawInput context progress.unlogged =
      ((state.perform environment.logged name input rawInput context progress).1,
        (state.perform environment.logged name input rawInput context
          progress).2.unlogged) := by
  cases state with
  | task frame work => exact work.perform_logged environment name input rawInput progress
  | wait frame delay =>
      have clock : environment.clock progress.unlogged.journal =
          environment.logged.clock progress.journal := rfl
      simp only [perform, clock]
      split
      · rfl
      · unfold pause
        dsimp only [Environment.logged]
        split <;> rfl
  | _ => rfl

theorem step_logged (environment : Environment Memory) (name : String) (state : State)
    (rawInput context : Document) (progress : Progress (Memory × AnswerLog)) :
    state.step environment name rawInput context progress.unlogged =
      ((state.step environment.logged name rawInput context progress).1,
        (state.step environment.logged name rawInput context progress).2.unlogged) := by
  unfold step
  split
  · rfl
  · dsimp only
    rw [perform_logged]

end State

namespace Position

def unlogged (position : Position (Memory × AnswerLog)) : Position Memory :=
  ⟨position.name, position.document, position.progress.unlogged⟩

def logged (position : Position Memory) : Position (Memory × AnswerLog) :=
  ⟨position.name, position.document, position.progress.logged⟩

end Position

namespace Machine

theorem visit_logged (environment : Environment Memory) (machine : Machine)
    (context : ExecutionContext) (position : Position (Memory × AnswerLog)) :
    machine.visit environment context position.unlogged =
      ((machine.visit environment.logged context position).1,
        (machine.visit environment.logged context position).2.unlogged) := by
  unfold visit
  dsimp only [Position.unlogged]
  split
  · rfl
  · exact State.step_logged environment position.name _ position.document _
      (position.entered _)

theorem continueFrom_logged (environment : Environment Memory) (machine : Machine)
    (context : ExecutionContext) (allowed : Nat)
    (position : Position (Memory × AnswerLog)) (entered : List String) :
    continueFrom environment machine context allowed position.name position.document
        entered position.progress.unlogged =
      ((continueFrom environment.logged machine context allowed position.name
          position.document entered position.progress).1,
        (continueFrom environment.logged machine context allowed position.name
          position.document entered position.progress).2.unlogged) := by
  induction allowed generalizing position entered with
  | zero => rfl
  | succ allowed induction =>
      have plain := @continueFrom_succ _ environment machine context allowed
        position.unlogged entered
      refine plain.trans ?_
      rw [continueFrom_succ, visit_logged]
      cases machine.visit environment.logged context position with
      | mk outcome after =>
          cases outcome with
          | error failure => rfl
          | ok left =>
              obtain ⟨output, next⟩ := left
              cases next with
              | none => rfl
              | some next =>
                  exact induction ⟨next, output, after⟩ (position.name :: entered)

/-- Keeping the log changes nothing else in a run. -/
theorem run_logged (environment : Environment Memory) (machine : Machine)
    (executionId machineId : String) (input : Document) (memory : Memory) :
    machine.run environment executionId machineId input memory =
      ((machine.run environment.logged executionId machineId input (memory, [])).1,
        (machine.run environment.logged executionId machineId input
          (memory, [])).2.unlogged) :=
  continueFrom_logged environment machine _ _
    (machine.start executionId input (memory, [])) []

/-- What resolvers answer while the state of a position is entered. -/
def visitAnswers (environment : Environment Memory) (machine : Machine)
    (context : ExecutionContext) (position : Position Memory) : AnswerLog :=
  (machine.visit environment.logged context position.logged).2.answers

/-- What resolvers answer during a run. -/
def runAnswers (environment : Environment Memory) (machine : Machine)
    (executionId machineId : String) (input : Document) (memory : Memory) : AnswerLog :=
  (machine.run environment.logged executionId machineId input (memory, [])).2.answers

end Machine

end StatesLanguage
