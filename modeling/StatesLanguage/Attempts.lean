import StatesLanguage.Delay
import StatesLanguage.Failure

/-!
# Attempts

A task is attempted until it succeeds or may not be retried.  The first Retry entry
that covers an error governs it, and each entry has a budget of its own.  When the
attempts end in an error, the first Catch entry that covers it takes over.
-/

namespace StatesLanguage

/-- Whether a list of error names covers an error. -/
def coversError (names : List String) (error : String) : Bool :=
  names.any fun name =>
    name = ErrorName.all || name = error ||
      (name = ErrorName.taskFailed && error ≠ ErrorName.timeout)

/-- A Retry entry and the retries it has granted. -/
structure Budget where
  retrier : Retrier
  used : Nat
  deriving DecidableEq

namespace Budget

/-- The retries that an entry still grants. -/
def left (defaults : RetryDefaults) (budget : Budget) : Nat :=
  budget.retrier.budget defaults - budget.used

/-- The retries that all entries together still grant. -/
def totalLeft (defaults : RetryDefaults) : List Budget → Nat
  | [] => 0
  | budget :: rest => left defaults budget + totalLeft defaults rest

/-- Charges the entry that governs an error with a retry: the seconds to wait, and the
budgets after it.  None if no entry covers the error, or the governing one has nothing
left. -/
def charge (defaults : RetryDefaults) (error : String) :
    List Budget → Option (Binary64 × List Budget)
  | [] => none
  | budget :: rest =>
      if coversError budget.retrier.errorEquals error then
        if budget.used < budget.retrier.budget defaults then
          some (budget.retrier.backoff defaults budget.used,
            { budget with used := budget.used + 1 } :: rest)
        else none
      else (charge defaults error rest).map fun (delay, charged) =>
        (delay, budget :: charged)

/-- A retry takes one from what all entries still grant. -/
theorem totalLeft_charge {defaults : RetryDefaults} {error : String} {delay : Binary64} :
    ∀ {budgets charged : List Budget},
      charge defaults error budgets = some (delay, charged) →
        totalLeft defaults charged + 1 = totalLeft defaults budgets
  | [], charged, granted => by simp [charge] at granted
  | budget :: rest, charged, granted => by
      by_cases covered : coversError budget.retrier.errorEquals error
      · by_cases some : budget.used < budget.retrier.budget defaults
        · simp only [charge, covered, some, if_true, Option.some.injEq,
            Prod.mk.injEq] at granted
          rw [← granted.2]
          simp only [totalLeft, left]
          omega
        · simp [charge, covered, some] at granted
      · simp only [charge, covered] at granted
        obtain ⟨⟨found, others⟩, below, same⟩ := Option.map_eq_some_iff.mp granted
        simp only [Prod.mk.injEq] at same
        rw [same.1] at below
        have induction := totalLeft_charge below
        rw [← same.2]
        simp only [totalLeft] at induction ⊢
        omega

end Budget

/-- How the attempts at a task ended. -/
inductive Resolution where
  | completed (value : Document) (attempts : Nat)
  | caught (taskError : TaskError) (catcher : Nat)
  | failed (taskError : TaskError)
  deriving DecidableEq

/-- What an error that is not retried leads to. -/
def Catcher.resolve (catchers : List Catcher) (taskError : TaskError) : Resolution :=
  match catchers.findIdx? fun catcher =>
    coversError catcher.errorEquals taskError.error with
  | some index => .caught taskError index
  | none => .failed taskError

/-- Where attempts take place: how the attempt of some number goes, and how time
passes between two of them. -/
structure Workplace (Progress : Type) where
  attempt : Nat → Progress → Except TaskError Document × Progress
  pause : Nat → Progress → Progress

/-- What the attempts follow besides their budgets. -/
structure RetryPolicy where
  catchers : List Catcher
  defaults : RetryDefaults
  timeScale : Binary64

namespace RetryPolicy

variable {Progress : Type}

/-- Attempts from the one of some number on, as long as the budgets grant retries. -/
def attemptFrom (policy : RetryPolicy) (workplace : Workplace Progress) (number : Nat)
    (budgets : List Budget) (progress : Progress) : Resolution × Progress :=
  match workplace.attempt number progress with
  | (.ok value, progress) => (.completed value number, progress)
  | (.error taskError, progress) =>
      match _granted : Budget.charge policy.defaults taskError.error budgets with
      | none => (Catcher.resolve policy.catchers taskError, progress)
      | some (delay, charged) =>
          let nanoseconds := Delay.scaled delay policy.timeScale
          attemptFrom policy workplace (number + 1) charged
            (if nanoseconds = 0 then progress else workplace.pause nanoseconds progress)
termination_by Budget.totalLeft policy.defaults budgets
decreasing_by
  have taken := Budget.totalLeft_charge _granted
  omega

/-- All attempts at a task. -/
def run (policy : RetryPolicy) (retriers : List Retrier)
    (workplace : Workplace Progress) (progress : Progress) : Resolution × Progress :=
  policy.attemptFrom workplace 1 (retriers.map (Budget.mk · 0)) progress

end RetryPolicy

end StatesLanguage
