import Mathlib.Algebra.BigOperators.Fin
import Mathlib.Algebra.Order.BigOperators.Group.Finset
import StatesLanguage.Proofs.Retry

/-!
# The budget of the attempts at a task

Every attempt but the last one is charged to one Retry entry, and no entry is charged more
often than its own budget allows.  So the attempts end after at most one more than all
budgets together, whatever errors arrive and in whatever order.
-/

namespace StatesLanguage

variable {Progress : Type}

namespace RetryPolicy

/-- An outcome that does not end the attempts is an error whose governing entry has retries
left. -/
theorem exists_governor_of_not_stops {policy : RetryPolicy} {retriers : List Retrier}
    {before : List (Except TaskError Document)} {outcome : Except TaskError Document}
    (continues : ¬ policy.Stops retriers before outcome) :
    ∃ taskError, outcome = .error taskError ∧ ∃ index : Fin retriers.length,
      governor? retriers taskError.error = some index.val ∧
        governed retriers before index < (retriers[index]).budget policy.defaults := by
  cases outcome with
  | ok value => exact absurd (.succeeded value) continues
  | error taskError =>
      refine ⟨taskError, rfl, ?_⟩
      cases governs : governor? retriers taskError.error with
      | none => exact absurd (.ungoverned governs) continues
      | some index =>
          obtain ⟨retrier, found⟩ := governor?_getElem? governs
          obtain ⟨within, there⟩ := List.getElem?_eq_some_iff.mp found
          refine ⟨⟨index, within⟩, rfl, ?_⟩
          apply Nat.lt_of_not_le
          intro spent
          apply continues
          apply Stops.spent governs found
          rw [← there]
          exact spent

theorem GoesOn.of_append {policy : RetryPolicy} {retriers : List Retrier}
    {before after : List (Except TaskError Document)}
    (goesOn : policy.GoesOn retriers (before ++ after)) : policy.GoesOn retriers before := by
  intro earlier outcome later split
  apply goesOn earlier outcome (later ++ after)
  rw [split, List.append_assoc, List.cons_append]

theorem GoesOn.continues {policy : RetryPolicy} {retriers : List Retrier}
    {before : List (Except TaskError Document)} {last : Except TaskError Document}
    (goesOn : policy.GoesOn retriers (before ++ [last])) :
    ¬ policy.Stops retriers before last :=
  goesOn before last [] rfl

/-- No entry governs more of the outcomes that were retried than its budget allows. -/
theorem GoesOn.governed_le {policy : RetryPolicy} {retriers : List Retrier}
    {outcomes : List (Except TaskError Document)} (goesOn : policy.GoesOn retriers outcomes)
    (index : Fin retriers.length) :
    governed retriers outcomes index ≤ (retriers[index]).budget policy.defaults := by
  induction outcomes using List.reverseRecOn with
  | nil => exact Nat.zero_le _
  | append_singleton before last induction =>
      obtain ⟨taskError, rfl, governing, governs, left⟩ :=
        exists_governor_of_not_stops goesOn.continues
      have earlier := induction goesOn.of_append
      rw [governed_append retriers before taskError governs, Budget.raise]
      split
      · rename_i same
        cases Fin.ext same
        exact left
      · exact earlier

/-- Each outcome that was retried is governed by one entry. -/
theorem GoesOn.length_eq_sum {policy : RetryPolicy} {retriers : List Retrier}
    {outcomes : List (Except TaskError Document)} (goesOn : policy.GoesOn retriers outcomes) :
    outcomes.length = ∑ index : Fin retriers.length, governed retriers outcomes index := by
  induction outcomes using List.reverseRecOn with
  | nil => simp [governed]
  | append_singleton before last induction =>
      obtain ⟨taskError, rfl, governing, governs, -⟩ :=
        exists_governor_of_not_stops goesOn.continues
      have counted : ∀ index : Fin retriers.length,
          governed retriers (before ++ [.error taskError]) index =
            governed retriers before index + if index = governing then 1 else 0 := by
        intro index
        rw [governed_append retriers before taskError governs, Budget.raise]
        by_cases same : index = governing
        · rw [if_pos same, if_pos (congrArg Fin.val same)]
        · rw [if_neg same, if_neg fun equal => same (Fin.ext equal), Nat.add_zero]
      calc (before ++ [Except.error taskError]).length
          = (∑ index : Fin retriers.length, governed retriers before index) + 1 := by
            rw [List.length_append, List.length_singleton, induction goesOn.of_append]
        _ = ∑ index : Fin retriers.length,
              (governed retriers before index + if index = governing then 1 else 0) := by
            rw [Finset.sum_add_distrib, Finset.sum_ite_eq' Finset.univ governing,
              if_pos (Finset.mem_univ governing)]
        _ = ∑ index : Fin retriers.length,
              governed retriers (before ++ [.error taskError]) index :=
            Finset.sum_congr rfl fun index _ => (counted index).symm

/-- The retries that some entries allow together. -/
def allowance (policy : RetryPolicy) (retriers : List Retrier) : Nat :=
  (retriers.map fun retrier => retrier.budget policy.defaults).sum

theorem GoesOn.length_le {policy : RetryPolicy} {retriers : List Retrier}
    {outcomes : List (Except TaskError Document)} (goesOn : policy.GoesOn retriers outcomes) :
    outcomes.length ≤ policy.allowance retriers := by
  calc outcomes.length
      = ∑ index : Fin retriers.length, governed retriers outcomes index :=
        goesOn.length_eq_sum
    _ ≤ ∑ index : Fin retriers.length, (retriers[index]).budget policy.defaults :=
        Finset.sum_le_sum fun index _ => goesOn.governed_le index
    _ = policy.allowance retriers :=
        Fin.sum_univ_fun_getElem retriers fun retrier => retrier.budget policy.defaults

/-- The attempts at a task end within the budgets, whatever the workplace does.  All
outcomes but the last one were retried; each of these retries is charged to the one entry
that governs the outcome, none of the entries is charged more often than its own budget
allows, and without entries there is a single attempt. -/
theorem run_within_allowance (policy : RetryPolicy) (retriers : List Retrier)
    (workplace : Workplace Progress) (progress : Progress) :
    ∃ retried last resolution final,
      policy.run retriers workplace progress = (resolution, final) ∧
      policy.run retriers workplace.logged (progress, []) =
        (resolution, final, retried ++ [last]) ∧
      (retried ++ [last]).length ≤ 1 + policy.allowance retriers ∧
      retried.length = ∑ index : Fin retriers.length, governed retriers retried index ∧
      (∀ index : Fin retriers.length,
        governed retriers retried index ≤ (retriers[index]).budget policy.defaults) ∧
      (retriers = [] → retried = []) := by
  have counted : retriers.map (Budget.mk · 0) =
      Budget.fill retriers (governed retriers []) := (Budget.fill_zero retriers).symm
  obtain ⟨retried, last, resolution, final, plain, logged, settles⟩ :=
    attemptFrom_settles policy retriers workplace _ [] progress counted
      (goesOn_nil policy retriers)
  have bounded := settles.goesOn.length_le
  refine ⟨retried, last, resolution, final, plain, logged, ?_,
    settles.goesOn.length_eq_sum, settles.goesOn.governed_le, ?_⟩
  · rw [List.length_append, List.length_singleton]
    omega
  · rintro rfl
    exact List.eq_nil_of_length_eq_zero (Nat.le_zero.mp bounded)

/-- Every attempt fails, with errors that alternate. -/
def flickering : Workplace Unit where
  attempt number progress :=
    (.error ⟨if number % 2 = 0 then "Lost" else "Busy", "cut off"⟩, progress)
  pause _ progress := progress

/-- Two retries after one of these errors, and one after any other. -/
def patient : List Retrier :=
  [⟨["Busy"], none, none, some 2, none⟩, ⟨[ErrorName.all], none, none, some 1, none⟩]

theorem flickering_within_allowance :
    (∃ outcomes resolution final,
      RetryPolicy.run ⟨[], Settings.standard.retry, Settings.standard.timeScale⟩ patient
        flickering.logged ((), []) = (resolution, final, outcomes) ∧ outcomes.length ≤ 4) ∧
    (∃ last resolution final,
      RetryPolicy.run ⟨[], Settings.standard.retry, Settings.standard.timeScale⟩ []
        flickering.logged ((), []) = (resolution, final, [last])) := by
  constructor
  · obtain ⟨retried, last, resolution, final, -, logged, bounded, -⟩ :=
      run_within_allowance ⟨[], Settings.standard.retry, Settings.standard.timeScale⟩ patient
        flickering ()
    exact ⟨retried ++ [last], resolution, final, logged, bounded⟩
  · obtain ⟨retried, last, resolution, final, -, logged, -, -, -, alone⟩ :=
      run_within_allowance ⟨[], Settings.standard.retry, Settings.standard.timeScale⟩ []
        flickering ()
    rw [alone rfl] at logged
    exact ⟨last, resolution, final, logged⟩

end RetryPolicy

end StatesLanguage
