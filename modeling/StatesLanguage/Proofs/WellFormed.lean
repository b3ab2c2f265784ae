import StatesLanguage.Proofs.RuleWalk
import StatesLanguage.Proofs.Validity

/-!
# Well-formed machines

`Machine.WellFormed` says what a machine must look like, part by part and without any
order of checks.  The main theorem is that validation accepts exactly these machines.
-/

namespace StatesLanguage

open Outcome

/-- A state goes on to a defined state or declares the end, and not both. -/
structure Exit.WellFormed (defined : Defined) (exit : Exit) : Prop where
  one : exit.next = none ↔ exit.isEnd = true
  target : ∀ next, exit.next = some next → defined next = true

/-- The rules of a Choice state say where it goes, those at the top and no others. -/
structure Choice.WellFormed (defined : Defined) (branching : Choice) : Prop where
  noNext : branching.exit.next = none
  noEnd : branching.exit.isEnd = false
  rules : branching.rules ≠ []
  top : ∀ rule, rule ∈ branching.rules →
    ∃ next, rule.next = some next ∧ defined next = true
  nested : ∀ rule, rule ∈ branching.rules →
    ∀ inner : Rule, inner.Inside rule → inner.next = none
  default : ∀ next, branching.default = some next → defined next = true

/-- A Wait state declares one of its durations and leaves the others out. -/
inductive Wait.DeclaresOne : Wait → Prop where
  | seconds (seconds : Nat) (exit : Exit) : DeclaresOne ⟨some seconds, none, none, none, exit⟩
  | secondsPath (path : String) (exit : Exit) :
      DeclaresOne ⟨none, some path, none, none, exit⟩
  | timestamp (text : String) (exit : Exit) : DeclaresOne ⟨none, none, some text, none, exit⟩
  | timestampPath (path : String) (exit : Exit) :
      DeclaresOne ⟨none, none, none, some path, exit⟩

/-- No list of errors is empty, and the name for all errors is alone in its list, which
is the last one. -/
structure ErrorListsWellFormed (lists : List (List String)) : Prop where
  nonempty : ∀ errors, errors ∈ lists → errors ≠ []
  all : ∀ before errors after, lists = before ++ errors :: after →
    ErrorName.all ∈ errors → errors = [ErrorName.all] ∧ after = []

/-- The numbers that a Retry entry sets are in range. -/
structure Retrier.WellFormed (retrier : Retrier) : Prop where
  interval : ∀ seconds, retrier.intervalSeconds = some seconds →
    (Binary64.zero false).le seconds = true
  rate : ∀ rate, retrier.backoffRate = some rate → (Binary64.ofNat 1).le rate = true
  maxDelay : ∀ seconds, retrier.maxDelaySeconds = some seconds →
    (Binary64.zero false).lt seconds = true

structure Recovery.WellFormed (defined : Defined) (recovery : Recovery) : Prop where
  retryErrors : ErrorListsWellFormed (recovery.retriers.map (·.errorEquals))
  retriers : ∀ retrier, retrier ∈ recovery.retriers → retrier.WellFormed
  catchErrors : ErrorListsWellFormed (recovery.catchers.map (·.errorEquals))
  targets : ∀ catcher, catcher ∈ recovery.catchers → defined catcher.next = true

mutual

/-- A machine has states, starts at one of them, and they are well-formed. -/
inductive Machine.WellFormed : Machine → Prop where
  | intro {machine : Machine} (nonempty : machine.states ≠ [])
      (starts : machine.defines machine.startAt = true)
      (states : ∀ name state, (name, state) ∈ machine.states →
        State.WellFormed machine.defines state) : Machine.WellFormed machine

/-- A state of a machine that defines some names. -/
inductive State.WellFormed : Defined → State → Prop where
  | task {defined : Defined} {frame : Frame} {work : Task}
      (exit : work.exit.WellFormed defined) (resource : work.resource ≠ "")
      (recovery : work.recovery.WellFormed defined) :
      State.WellFormed defined (.task frame work)
  | pass {defined : Defined} {frame : Frame} {given : Pass}
      (exit : given.exit.WellFormed defined) : State.WellFormed defined (.pass frame given)
  | choice {defined : Defined} {frame : Frame} {branching : Choice}
      (choice : branching.WellFormed defined) :
      State.WellFormed defined (.choice frame branching)
  | wait {defined : Defined} {frame : Frame} {delay : Wait}
      (exit : delay.exit.WellFormed defined) (duration : delay.DeclaresOne) :
      State.WellFormed defined (.wait frame delay)
  | succeed {defined : Defined} {frame : Frame} : State.WellFormed defined (.succeed frame)
  | fail {defined : Defined} {failing : Fail} : State.WellFormed defined (.fail failing)
  | map {defined : Defined} {frame : Frame} {items : MapItems}
      (exit : items.exit.WellFormed defined)
      (recovery : items.recovery.WellFormed defined) :
      State.WellFormed defined (.map frame items)
  | parallel {defined : Defined} {frame : Frame} {branches : List Machine}
      {payload : Payload} {recovery : Recovery} {exit : Exit}
      (goes : exit.WellFormed defined)
      (recovers : recovery.WellFormed defined)
      (machines : ∀ branch, branch ∈ branches → Machine.WellFormed branch) :
      State.WellFormed defined (.parallel frame branches payload recovery exit)

end

theorem Exit.validate_iff_wellFormed {defined : Defined} {name : String} {exit : Exit} :
    exit.validate defined name = .ok () ↔ exit.WellFormed defined := by
  rw [Exit.validate_eq_ok]
  constructor
  · rintro (⟨target, rfl, known⟩ | rfl)
    · constructor
      · simp
      · rintro next ⟨⟩
        exact known
    · constructor
      · simp
      · rintro next ⟨⟩
  · intro wellFormed
    obtain ⟨next, isEnd⟩ := exit
    obtain ⟨one, target⟩ := wellFormed
    cases next with
    | none =>
        right
        simpa using one
    | some next =>
        have goesOn : isEnd = false := by
          cases isEnd with
          | false => rfl
          | true => cases one.mpr rfl
        exact .inl ⟨next, by rw [goesOn], target next rfl⟩

theorem Rule.hasNestedNext_eq_false {rule : Rule} :
    rule.hasNestedNext = false ↔ ∀ inner : Rule, inner.Inside rule → inner.next = none := by
  rw [Rule.hasNestedNext, List.any_eq_false]
  constructor
  · intro silent inner inside
    obtain ⟨depth, below, found⟩ := inside.mem_walk 0
    have unnamed := silent (depth, inner) found
    simpa [below] using unnamed
  · rintro silent ⟨depth, inner⟩ found named
    obtain ⟨below, goes⟩ := Bool.and_eq_true_iff.mp named
    have inside : inner.Inside rule :=
      Rule.inside_iff_mem_walk.mpr ⟨depth, of_decide_eq_true below, found⟩
    rw [silent inner inside] at goes
    cases goes

theorem Choice.validate_iff_wellFormed {defined : Defined} {name : String}
    {branching : Choice} :
    branching.validate defined name = .ok () ↔ branching.WellFormed defined := by
  simp only [Choice.validate_eq_ok, Rule.validate_eq_ok, Rule.hasNestedNext_eq_false]
  constructor
  · rintro ⟨bare, rules, checked, default⟩
    exact {
      noNext := by rw [bare]
      noEnd := by rw [bare]
      rules
      top := fun rule member => (checked rule member).1
      nested := fun rule member => (checked rule member).2
      default }
  · rintro ⟨noNext, noEnd, rules, top, nested, default⟩
    refine ⟨?_, rules, fun rule member => ⟨top rule member, nested rule member⟩, default⟩
    rw [← noNext, ← noEnd]

theorem Wait.declaresOne_of_durationCount {delay : Wait}
    (one : delay.durationCount = 1) : delay.DeclaresOne := by
  obtain ⟨seconds, secondsPath, timestamp, timestampPath, exit⟩ := delay
  cases seconds with
  | some seconds =>
      obtain ⟨rfl, rfl, rfl⟩ :
          secondsPath = none ∧ timestamp = none ∧ timestampPath = none := by
        simpa [Wait.durationCount, List.count_eq_zero] using one
      exact .seconds seconds exit
  | none =>
  cases secondsPath with
  | some path =>
      obtain ⟨rfl, rfl⟩ : timestamp = none ∧ timestampPath = none := by
        simpa [Wait.durationCount, List.count_eq_zero] using one
      exact .secondsPath path exit
  | none =>
  cases timestamp with
  | some text =>
      obtain rfl : timestampPath = none := by
        simpa [Wait.durationCount, List.count_eq_zero] using one
      exact .timestamp text exit
  | none =>
  cases timestampPath with
  | some path => exact .timestampPath path exit
  | none => simp [Wait.durationCount] at one

theorem Wait.durationCount_eq_one {delay : Wait} :
    delay.durationCount = 1 ↔ delay.DeclaresOne := by
  constructor
  · exact Wait.declaresOne_of_durationCount
  · intro declares
    cases declares with
    | seconds seconds exit => rfl
    | secondsPath path exit => rfl
    | timestamp text exit => rfl
    | timestampPath path exit => rfl

theorem ErrorListsWellFormed.cons_iff {errors : List String} {rest : List (List String)} :
    ErrorListsWellFormed (errors :: rest) ↔
      errors ≠ [] ∧ (ErrorName.all ∈ errors → errors = [ErrorName.all] ∧ rest = []) ∧
        ErrorListsWellFormed rest := by
  constructor
  · rintro ⟨nonempty, all⟩
    refine ⟨nonempty errors List.mem_cons_self, all [] errors rest rfl, ?_⟩
    constructor
    · intro other member
      exact nonempty other (List.mem_cons_of_mem errors member)
    · intro before other after split
      exact all (errors :: before) other after (by rw [split, List.cons_append])
  · rintro ⟨named, alone, nonempty, all⟩
    constructor
    · intro other member
      rcases List.mem_cons.mp member with rfl | later
      · exact named
      · exact nonempty other later
    · intro before other after split
      cases before with
      | nil =>
          obtain ⟨rfl, rfl⟩ := List.cons.inj split
          exact alone
      | cons first before => exact all before other after (List.cons.inj split).2

theorem standsAlone_iff {errors : List String} {rest : List (List String)} :
    (errors.contains ErrorName.all && (errors.length ≠ 1 || !rest.isEmpty)) = false ↔
      (ErrorName.all ∈ errors → errors = [ErrorName.all] ∧ rest = []) := by
  constructor
  · intro passed member
    have contained : errors.contains ErrorName.all = true := List.contains_iff_mem.mpr member
    rw [contained, Bool.true_and, Bool.or_eq_false_iff] at passed
    obtain ⟨single, last⟩ := passed
    obtain ⟨only, rfl⟩ := List.length_eq_one_iff.mp (by simpa using single)
    rw [List.mem_singleton.mp member]
    exact ⟨rfl, by simpa using last⟩
  · intro alone
    by_cases member : ErrorName.all ∈ errors
    · obtain ⟨rfl, rfl⟩ := alone member
      rfl
    · have absent : errors.contains ErrorName.all = false := by simpa using member
      rw [absent, Bool.false_and]

theorem validateErrorLists_iff_wellFormed {name field : String} {lists : List (List String)}
    {index : Nat} :
    validateErrorLists name field index lists = .ok () ↔ ErrorListsWellFormed lists := by
  induction lists generalizing index with
  | nil =>
      constructor
      · intro checked
        constructor
        · intro errors member
          cases member
        · intro before errors after split
          cases before <;> cases split
      · intro wellFormed
        rfl
  | cons errors rest induction =>
      rw [ErrorListsWellFormed.cons_iff, ← standsAlone_iff, ← @induction (index + 1),
        validateErrorLists]
      cases errors with
      | nil => simp [refuse]
      | cons error others =>
          cases (error :: others).contains ErrorName.all &&
              ((error :: others).length ≠ 1 || !rest.isEmpty) with
          | true => simp [refuse]
          | false => simp

theorem noneOutside_iff {set : Option Binary64} {inRange : Binary64 → Bool} :
    (set.any fun number => !inRange number) = false ↔
      ∀ number, set = some number → inRange number = true := by
  cases set with
  | none => simp
  | some number => simp

theorem Retrier.validate_iff_wellFormed {name : String} {retrier : Retrier} :
    retrier.validate name = .ok () ↔ retrier.WellFormed := by
  have ranges : retrier.WellFormed ↔
      (retrier.intervalSeconds.any fun seconds => !(Binary64.zero false).le seconds) = false ∧
        (retrier.backoffRate.any fun rate => !(Binary64.ofNat 1).le rate) = false ∧
        (retrier.maxDelaySeconds.any fun seconds => !(Binary64.zero false).lt seconds) =
          false := by
    rw [noneOutside_iff, noneOutside_iff, noneOutside_iff]
    exact ⟨fun ⟨interval, rate, maxDelay⟩ => ⟨interval, rate, maxDelay⟩,
      fun ⟨interval, rate, maxDelay⟩ => ⟨interval, rate, maxDelay⟩⟩
  rw [ranges, Retrier.validate]
  split
  · rename_i outside
    simp [refuse, outside]
  · rename_i interval
    split
    · rename_i outside
      simp [refuse, outside]
    · rename_i rate
      split
      · rename_i outside
        simp [refuse, outside]
      · rename_i maxDelay
        simp [interval, rate, maxDelay]

theorem validateRetriers_iff_wellFormed {name : String} {retriers : List Retrier} :
    validateRetriers name retriers = .ok () ↔
      ∀ retrier, retrier ∈ retriers → retrier.WellFormed := by
  induction retriers with
  | nil => simp [validateRetriers]
  | cons retrier rest induction =>
      simp [validateRetriers, seq_eq_ok, Retrier.validate_iff_wellFormed, induction]

theorem Recovery.validate_iff_wellFormed {defined : Defined} {name : String}
    {recovery : Recovery} :
    recovery.validate defined name = .ok () ↔ recovery.WellFormed defined := by
  rw [Recovery.validate_eq_ok, validateErrorLists_iff_wellFormed,
    validateRetriers_iff_wellFormed, validateErrorLists_iff_wellFormed]
  constructor
  · rintro ⟨retryErrors, retriers, catchErrors, targets⟩
    exact ⟨retryErrors, retriers, catchErrors, targets⟩
  · rintro ⟨retryErrors, retriers, catchErrors, targets⟩
    exact ⟨retryErrors, retriers, catchErrors, targets⟩

/-- The machines inside a state. -/
def State.branches : State → List Machine
  | .parallel _ branches _ _ _ => branches
  | _ => []

theorem Machine.sizeOf_branch_lt {machine branch : Machine} {name : String} {state : State}
    (member : (name, state) ∈ machine.states) (within : branch ∈ state.branches) :
    sizeOf branch < sizeOf machine := by
  have inState : sizeOf branch < sizeOf state := by
    cases state with
    | parallel frame branches payload recovery exit =>
        have smaller : sizeOf branch < sizeOf branches := List.sizeOf_lt_of_mem within
        rw [State.parallel.sizeOf_spec]
        omega
    | _ => cases within
  obtain ⟨startAt, states, comment, version, timeoutSeconds⟩ := machine
  have inStates : sizeOf (name, state) < sizeOf states := List.sizeOf_lt_of_mem member
  rw [Prod.mk.sizeOf_spec] at inStates
  rw [Machine.mk.sizeOf_spec]
  omega

/-- What passes from the branches of a machine to the machine holds of every machine. -/
theorem Machine.induction_on_branches {motive : Machine → Prop}
    (combine : ∀ machine : Machine,
      (∀ name state, (name, state) ∈ machine.states →
        ∀ branch, branch ∈ state.branches → motive branch) → motive machine)
    (machine : Machine) : motive machine :=
  combine machine fun _ _ _member branch _within =>
    Machine.induction_on_branches combine branch
termination_by sizeOf machine
decreasing_by exact Machine.sizeOf_branch_lt _member _within

theorem validateBranches_eq_ok {branches : List Machine} :
    validateBranches branches = .ok () ↔
      ∀ branch, branch ∈ branches → branch.validate = .ok () := by
  induction branches with
  | nil => simp [validateBranches]
  | cons branch rest induction => simp [validateBranches, seq_eq_ok, induction]

theorem State.validate_iff_wellFormed {defined : Defined} {name : String} {state : State}
    (branches : ∀ branch, branch ∈ state.branches →
      (branch.validate = .ok () ↔ branch.WellFormed)) :
    state.validate defined name = .ok () ↔ State.WellFormed defined state := by
  cases state with
  | task frame work =>
      rw [State.validate, seq_eq_ok, Exit.validate_iff_wellFormed]
      constructor
      · rintro ⟨exit, checked⟩
        split at checked
        · cases checked
        · rename_i resource
          refine .task exit ?_ (Recovery.validate_iff_wellFormed.mp checked)
          intro empty
          simp [empty] at resource
      · intro wellFormed
        cases wellFormed with
        | task exit resource recovery =>
            refine ⟨exit, ?_⟩
            rw [if_neg (by simpa using resource)]
            exact Recovery.validate_iff_wellFormed.mpr recovery
  | pass frame given =>
      rw [State.validate, Exit.validate_iff_wellFormed]
      constructor
      · exact .pass
      · intro wellFormed
        cases wellFormed with
        | pass exit => exact exit
  | choice frame branching =>
      rw [State.validate, Choice.validate_iff_wellFormed]
      constructor
      · exact .choice
      · intro wellFormed
        cases wellFormed with
        | choice choice => exact choice
  | wait frame delay =>
      rw [State.validate, seq_eq_ok, Exit.validate_iff_wellFormed, Wait.validate_eq_ok,
        Wait.durationCount_eq_one]
      constructor
      · rintro ⟨exit, duration⟩
        exact .wait exit duration
      · intro wellFormed
        cases wellFormed with
        | wait exit duration => exact ⟨exit, duration⟩
  | succeed frame => exact ⟨fun _ => .succeed, fun _ => rfl⟩
  | fail failing => exact ⟨fun _ => .fail, fun _ => rfl⟩
  | map frame items =>
      rw [State.validate, seq_eq_ok, Exit.validate_iff_wellFormed,
        Recovery.validate_iff_wellFormed]
      constructor
      · rintro ⟨exit, recovery⟩
        exact .map exit recovery
      · intro wellFormed
        cases wellFormed with
        | map exit recovery => exact ⟨exit, recovery⟩
  | parallel frame machines payload recovery exit =>
      rw [State.validate, seq_eq_ok, seq_eq_ok, Exit.validate_iff_wellFormed,
        Recovery.validate_iff_wellFormed, validateBranches_eq_ok]
      constructor
      · rintro ⟨goes, valid, recovers⟩
        refine .parallel goes recovers ?_
        intro branch member
        exact (branches branch member).mp (valid branch member)
      · intro wellFormed
        cases wellFormed with
        | parallel goes recovers wellFormed =>
            refine ⟨goes, ?_, recovers⟩
            intro branch member
            exact (branches branch member).mpr (wellFormed branch member)

/-- Validation accepts exactly the well-formed machines. -/
theorem Machine.validate_eq_ok_iff_wellFormed (machine : Machine) :
    machine.validate = .ok () ↔ machine.WellFormed := by
  induction machine using Machine.induction_on_branches with
  | combine machine induction =>
      have states : ∀ name state, (name, state) ∈ machine.states →
          (state.validate machine.defines name = .ok () ↔
            State.WellFormed machine.defines state) := by
        intro name state member
        exact State.validate_iff_wellFormed (induction name state member)
      rw [Machine.validate_eq_ok]
      constructor
      · rintro ⟨nonempty, starts, valid⟩
        refine .intro nonempty starts ?_
        intro name state member
        exact (states name state member).mp (valid name state member)
      · rintro ⟨nonempty, starts, wellFormed⟩
        refine ⟨nonempty, starts, ?_⟩
        intro name state member
        exact (states name state member).mpr (wellFormed name state member)

end StatesLanguage
