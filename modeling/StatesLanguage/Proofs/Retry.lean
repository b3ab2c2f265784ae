import StatesLanguage.Attempts

/-!
# What the attempts at a task amount to

The attempts keep one counter for each Retry entry.  Here the counters are explained by
the outcomes so far: a counter is the number of errors that its entry governed.  Hence
`RetryPolicy.run_settles`, which describes when the attempts stop and what they come to
without any counter.
-/

namespace StatesLanguage

variable {Progress : Type}

/-- The Retry entry that governs an error: the first one that covers it. -/
def governor? (retriers : List Retrier) (error : String) : Option Nat :=
  retriers.findIdx? fun retrier => coversError retrier.errorEquals error

/-- Whether an outcome is an error that the entry at an index governs. -/
def isGoverned (retriers : List Retrier) (index : Nat) :
    Except TaskError Document → Bool
  | .ok _ => false
  | .error taskError => governor? retriers taskError.error = some index

/-- How many of some outcomes are errors that the entry at an index governs. -/
def governed (retriers : List Retrier) (outcomes : List (Except TaskError Document))
    (index : Nat) : Nat :=
  outcomes.countP (isGoverned retriers index)

/-- A workplace that keeps a log of the outcomes, in order. -/
def Workplace.logged (workplace : Workplace Progress) :
    Workplace (Progress × List (Except TaskError Document)) where
  attempt number progress :=
    ((workplace.attempt number progress.1).1,
      (workplace.attempt number progress.1).2,
      progress.2 ++ [(workplace.attempt number progress.1).1])
  pause nanoseconds progress := (workplace.pause nanoseconds progress.1, progress.2)

namespace RetryPolicy

/-- After some outcomes, this one ends the attempts. -/
inductive Stops (policy : RetryPolicy) (retriers : List Retrier)
    (before : List (Except TaskError Document)) : Except TaskError Document → Prop where
  | succeeded (value : Document) : Stops policy retriers before (.ok value)
  | ungoverned {taskError : TaskError}
      (uncovered : governor? retriers taskError.error = none) :
      Stops policy retriers before (.error taskError)
  | spent {taskError : TaskError} {index : Nat} {retrier : Retrier}
      (governs : governor? retriers taskError.error = some index)
      (found : retriers[index]? = some retrier)
      (used : retrier.budget policy.defaults ≤ governed retriers before index) :
      Stops policy retriers before (.error taskError)

/-- What the last of some attempts leads to. -/
inductive LeadsTo (policy : RetryPolicy) (attempts : Nat) :
    Except TaskError Document → Resolution → Prop where
  | completed (value : Document) :
      LeadsTo policy attempts (.ok value) (.completed value attempts)
  /-- The first Catch entry that covers the error takes over. -/
  | caught {taskError : TaskError} {index : Nat} {catcher : Catcher}
      (found : policy.catchers[index]? = some catcher)
      (covers : coversError catcher.errorEquals taskError.error = true)
      (first : ∀ earlier other, earlier < index →
        policy.catchers[earlier]? = some other →
          coversError other.errorEquals taskError.error = false) :
      LeadsTo policy attempts (.error taskError) (.caught taskError index)
  | failed {taskError : TaskError}
      (uncovered : ∀ catcher, catcher ∈ policy.catchers →
        coversError catcher.errorEquals taskError.error = false) :
      LeadsTo policy attempts (.error taskError) (.failed taskError)

/-- None of some outcomes ends the attempts, given the ones before it. -/
def GoesOn (policy : RetryPolicy) (retriers : List Retrier)
    (outcomes : List (Except TaskError Document)) : Prop :=
  ∀ before outcome after, outcomes = before ++ outcome :: after →
    ¬ policy.Stops retriers before outcome

/-- Attempts with these outcomes, the last one apart, come to a resolution. -/
structure Settles (policy : RetryPolicy) (retriers : List Retrier)
    (earlier : List (Except TaskError Document)) (last : Except TaskError Document)
    (resolution : Resolution) : Prop where
  goesOn : policy.GoesOn retriers earlier
  stops : policy.Stops retriers earlier last
  leadsTo : policy.LeadsTo (earlier.length + 1) last resolution

end RetryPolicy

namespace Budget

/-- One budget for each entry, by a count of the retries it has granted. -/
def fill : List Retrier → (Nat → Nat) → List Budget
  | [], _ => []
  | retrier :: rest, used => ⟨retrier, used 0⟩ :: fill rest fun index => used (index + 1)

/-- One more at an index. -/
def raise (used : Nat → Nat) (index : Nat) : Nat → Nat :=
  fun other => if other = index then used other + 1 else used other

theorem fill_zero (retriers : List Retrier) :
    fill retriers (fun _ => 0) = retriers.map (Budget.mk · 0) := by
  induction retriers with
  | nil => rfl
  | cons retrier rest induction => simp [fill, induction]

theorem charge_fill_of_ungoverned {defaults : RetryDefaults} {error : String}
    {retriers : List Retrier} (uncovered : governor? retriers error = none)
    (used : Nat → Nat) : charge defaults error (fill retriers used) = none := by
  induction retriers generalizing used with
  | nil => rfl
  | cons retrier rest induction =>
      simp only [governor?, List.findIdx?_cons] at uncovered
      split at uncovered
      · cases uncovered
      · rename_i other
        have later : governor? rest error = none := Option.map_eq_none_iff.mp uncovered
        simp [fill, charge, other, induction later]

/-- The governing entry alone is charged, if its own count allows it. -/
theorem charge_fill {defaults : RetryDefaults} {error : String} {retriers : List Retrier}
    {index : Nat} {retrier : Retrier} (governs : governor? retriers error = some index)
    (found : retriers[index]? = some retrier) (used : Nat → Nat) :
    charge defaults error (fill retriers used) =
      if used index < retrier.budget defaults then
        some (retrier.backoff defaults (used index), fill retriers (raise used index))
      else none := by
  induction retriers generalizing used index with
  | nil => cases governs
  | cons head rest induction =>
      simp only [governor?, List.findIdx?_cons] at governs
      split at governs
      · rename_i covers
        cases governs
        cases found
        simp [fill, charge, covers, raise]
      · rename_i other
        obtain ⟨below, below_governs, rfl⟩ := Option.map_eq_some_iff.mp governs
        have charged := induction below_governs found fun index => used (index + 1)
        have raised : (fun index => raise used (below + 1) (index + 1)) =
            raise (fun index => used (index + 1)) below := by
          funext index
          simp [raise]
        have kept : raise used (below + 1) 0 = used 0 := by simp [raise]
        simp only [fill, charge, other, charged, raised, kept]
        by_cases enough : used (below + 1) < retrier.budget defaults
        · simp [enough]
        · simp [enough]

end Budget

theorem governed_append (retriers : List Retrier)
    (before : List (Except TaskError Document)) (taskError : TaskError) {index : Nat}
    (governs : governor? retriers taskError.error = some index) :
    governed retriers (before ++ [.error taskError]) =
      Budget.raise (governed retriers before) index := by
  funext other
  have counted : governed retriers (before ++ [.error taskError]) other =
      governed retriers before other +
        governed retriers [.error taskError] other := List.countP_append
  rw [counted, Budget.raise]
  by_cases same : other = index
  · subst same
    simp [governed, isGoverned, governs]
  · have apart : index ≠ other := fun equal => same equal.symm
    simp [governed, isGoverned, governs, same, apart]

theorem governor?_getElem? {retriers : List Retrier} {error : String} {index : Nat}
    (governs : governor? retriers error = some index) :
    ∃ retrier, retriers[index]? = some retrier := by
  have within := (List.findIdx?_eq_some_iff_getElem.mp governs).1
  exact ⟨retriers[index], List.getElem?_eq_getElem within⟩

namespace RetryPolicy

/-- An error either ends the attempts or is charged to the entry that governs it. -/
theorem charge_governed (policy : RetryPolicy) (retriers : List Retrier)
    (before : List (Except TaskError Document)) (taskError : TaskError) :
    (policy.Stops retriers before (.error taskError) ∧
      Budget.charge policy.defaults taskError.error
        (Budget.fill retriers (governed retriers before)) = none) ∨
    (¬ policy.Stops retriers before (.error taskError) ∧
      ∃ delay, Budget.charge policy.defaults taskError.error
        (Budget.fill retriers (governed retriers before)) =
          some (delay, Budget.fill retriers
            (governed retriers (before ++ [.error taskError])))) := by
  cases governs : governor? retriers taskError.error with
  | none =>
      left
      exact ⟨.ungoverned governs, Budget.charge_fill_of_ungoverned governs _⟩
  | some index =>
      obtain ⟨retrier, found⟩ := governor?_getElem? governs
      rw [Budget.charge_fill governs found, governed_append retriers before taskError governs]
      by_cases enough : governed retriers before index < retrier.budget policy.defaults
      · right
        constructor
        · intro stops
          cases stops with
          | ungoverned uncovered =>
              rw [governs] at uncovered
              cases uncovered
          | spent same_governs same_found used =>
              rw [governs] at same_governs
              cases same_governs
              rw [found] at same_found
              cases same_found
              omega
        · exact ⟨_, if_pos enough⟩
      · left
        exact ⟨.spent governs found (by omega), if_neg enough⟩

theorem resolve_leadsTo (policy : RetryPolicy) (attempts : Nat) (taskError : TaskError) :
    policy.LeadsTo attempts (.error taskError)
      (Catcher.resolve policy.catchers taskError) := by
  unfold Catcher.resolve
  split
  · rename_i index found
    obtain ⟨within, covers, first⟩ := List.findIdx?_eq_some_iff_getElem.mp found
    refine .caught (List.getElem?_eq_getElem within) covers ?_
    intro earlier other before same
    obtain ⟨bound, rfl⟩ := List.getElem?_eq_some_iff.mp same
    exact Bool.eq_false_iff.mpr (first earlier before)
  · rename_i missing
    exact .failed (List.findIdx?_eq_none_iff.mp missing)

section Attempts

variable {policy : RetryPolicy} {workplace : Workplace Progress} {number : Nat}
  {budgets : List Budget} {progress after : Progress}

theorem attemptFrom_ok {value : Document}
    (answered : workplace.attempt number progress = (.ok value, after)) :
    policy.attemptFrom workplace number budgets progress =
      (.completed value number, after) := by
  rw [attemptFrom, answered]

theorem attemptFrom_stop {taskError : TaskError}
    (answered : workplace.attempt number progress = (.error taskError, after))
    (refused : Budget.charge policy.defaults taskError.error budgets = none) :
    policy.attemptFrom workplace number budgets progress =
      (Catcher.resolve policy.catchers taskError, after) := by
  rw [attemptFrom, answered]
  dsimp only
  split
  · rfl
  · rename_i granted
    rw [refused] at granted
    cases granted

/-- The progress after the pause before a retry. -/
def paused (policy : RetryPolicy) (workplace : Workplace Progress) (delay : Binary64)
    (progress : Progress) : Progress :=
  if Delay.scaled delay policy.timeScale = 0 then progress
  else workplace.pause (Delay.scaled delay policy.timeScale) progress

theorem attemptFrom_retry {taskError : TaskError} {delay : Binary64}
    {charged : List Budget}
    (answered : workplace.attempt number progress = (.error taskError, after))
    (granted : Budget.charge policy.defaults taskError.error budgets =
      some (delay, charged)) :
    policy.attemptFrom workplace number budgets progress =
      policy.attemptFrom workplace (number + 1) charged
        (policy.paused workplace delay after) := by
  rw [attemptFrom, answered]
  dsimp only
  split
  · rename_i refused
    rw [granted] at refused
    cases refused
  · rename_i same
    rw [granted] at same
    cases same
    rfl

end Attempts

theorem paused_logged (policy : RetryPolicy) (workplace : Workplace Progress)
    (delay : Binary64) (progress : Progress)
    (log : List (Except TaskError Document)) :
    policy.paused workplace.logged delay (progress, log) =
      (policy.paused workplace delay progress, log) := by
  unfold paused
  split <;> rfl

theorem goesOn_nil (policy : RetryPolicy) (retriers : List Retrier) :
    policy.GoesOn retriers [] := by
  intro before outcome after split
  cases before <;> cases split

theorem GoesOn.append {policy : RetryPolicy} {retriers : List Retrier}
    {before : List (Except TaskError Document)} {last : Except TaskError Document}
    (goesOn : policy.GoesOn retriers before)
    (continues : ¬ policy.Stops retriers before last) :
    policy.GoesOn retriers (before ++ [last]) := by
  intro shorter outcome after split
  rcases List.eq_nil_or_concat after with rfl | ⟨init, final, rfl⟩
  · obtain ⟨rfl, same⟩ := List.append_inj' split rfl
    cases same
    exact continues
  · rw [List.concat_eq_append, ← List.cons_append, ← List.append_assoc] at split
    exact goesOn shorter outcome init (List.append_inj' split rfl).1

/-- From any outcomes so far, which the counters tell, the attempts settle: each retry lowers
what the entries still grant. -/
theorem attemptFrom_settles (policy : RetryPolicy) (retriers : List Retrier)
    (workplace : Workplace Progress) (budgets : List Budget)
    (before : List (Except TaskError Document)) (progress : Progress)
    (counted : budgets = Budget.fill retriers (governed retriers before))
    (goesOn : policy.GoesOn retriers before) :
    ∃ earlier last resolution final,
      policy.attemptFrom workplace (before.length + 1) budgets progress =
        (resolution, final) ∧
      policy.attemptFrom workplace.logged (before.length + 1) budgets (progress, before) =
        (resolution, final, earlier ++ [last]) ∧
      policy.Settles retriers earlier last resolution := by
  induction left_eq : Budget.totalLeft policy.defaults budgets using Nat.strongRecOn
    generalizing budgets before progress with
  | ind left induction =>
      cases answered : workplace.attempt (before.length + 1) progress with
      | mk outcome after =>
          have logged : workplace.logged.attempt (before.length + 1) (progress, before) =
              (outcome, after, before ++ [outcome]) := by
            simp [Workplace.logged, answered]
          cases outcome with
          | ok value =>
              refine ⟨before, .ok value, _, _, attemptFrom_ok answered,
                attemptFrom_ok logged, goesOn, .succeeded value, .completed value⟩
          | error taskError =>
              subst counted
              rcases charge_governed policy retriers before taskError with
                ⟨stops, refused⟩ | ⟨continues, delay, granted⟩
              · exact ⟨before, .error taskError, _, _, attemptFrom_stop answered refused,
                  attemptFrom_stop logged refused, goesOn, stops,
                  resolve_leadsTo policy _ taskError⟩
              · rw [attemptFrom_retry answered granted, attemptFrom_retry logged granted,
                  paused_logged]
                have fewer := Budget.totalLeft_charge granted
                have longer := induction _ (by omega) _ (before ++ [.error taskError])
                  (policy.paused workplace delay after) rfl
                  (goesOn.append continues) rfl
                simpa using longer

/-- The attempts at a task, whatever the workplace does.  They go on as long as each
outcome is an error that some entry governs, where that entry has governed fewer of the
outcomes before it than its own budget allows; the first outcome that is not of this kind
is the last one and decides alone what the attempts come to. -/
theorem run_settles (policy : RetryPolicy) (retriers : List Retrier)
    (workplace : Workplace Progress) (progress : Progress) :
    ∃ earlier last resolution final,
      policy.run retriers workplace progress = (resolution, final) ∧
      policy.run retriers workplace.logged (progress, []) =
        (resolution, final, earlier ++ [last]) ∧
      policy.Settles retriers earlier last resolution := by
  have counted : retriers.map (Budget.mk · 0) =
      Budget.fill retriers (governed retriers []) := (Budget.fill_zero retriers).symm
  exact attemptFrom_settles policy retriers workplace _ [] progress counted
    (goesOn_nil policy retriers)

/-- The second entry covers every error, yet the errors of the first one leave its
budget alone. -/
example :
    (RetryPolicy.run ⟨[], Settings.instant.retry, Settings.instant.timeScale⟩
      [⟨["Busy"], none, none, some 1, none⟩, ⟨["States.ALL"], none, none, some 1, none⟩]
      ⟨fun number calls =>
        (.error ⟨if number = 2 then "Lost" else "Busy", ""⟩, calls + 1), fun _ calls => calls⟩
      0) = (.failed ⟨"Busy", ""⟩, 3) := by
  decide +kernel

end RetryPolicy

end StatesLanguage
