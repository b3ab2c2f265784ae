import StatesLanguage.Machine.Validity
import StatesLanguage.Proofs.Members
import StatesLanguage.Proofs.Outcome

/-!
# What validation accepts

Each check of `Machine.validate` is described by what it accepts, so that later files
read the facts off a valid machine without opening a check.
-/

namespace StatesLanguage

open Outcome

theorem seq_eq_ok {first rest : Except Failure Unit} :
    (first >>= fun _ => rest) = .ok () ↔ first = .ok () ∧ rest = .ok () := by
  rw [bind_eq_ok]
  constructor
  · rintro ⟨⟨⟩, done, later⟩
    exact ⟨done, later⟩
  · rintro ⟨done, later⟩
    exact ⟨(), done, later⟩

theorem checkTarget_eq_ok {defined : Defined} {target : String} :
    checkTarget defined target = .ok () ↔ defined target = true := by
  unfold checkTarget
  split
  · rename_i found
    simp [found]
  · rename_i missing
    simp [missing]

theorem Exit.validate_eq_ok {defined : Defined} {name : String} {exit : Exit} :
    exit.validate defined name = .ok () ↔
      (∃ target, exit = ⟨some target, false⟩ ∧ defined target = true) ∨
        exit = ⟨none, true⟩ := by
  obtain ⟨next, isEnd⟩ := exit
  cases next with
  | none => cases isEnd <;> simp [Exit.validate, refuse]
  | some target => cases isEnd <;> simp [Exit.validate, refuse, checkTarget_eq_ok]

theorem Rule.validate_eq_ok {defined : Defined} {name : String} {rule : Rule} :
    rule.validate defined name = .ok () ↔
      (∃ target, rule.next = some target ∧ defined target = true) ∧
        rule.hasNestedNext = false := by
  unfold Rule.validate
  cases named : rule.next with
  | none => simp [refuse]
  | some target =>
      cases nested : rule.hasNestedNext with
      | true => simp [seq_eq_ok, refuse]
      | false => simp [seq_eq_ok, checkTarget_eq_ok, pure, Except.pure]

theorem validateRules_eq_ok {defined : Defined} {name : String} {rules : List Rule} :
    validateRules defined name rules = .ok () ↔
      ∀ rule, rule ∈ rules → rule.validate defined name = .ok () := by
  induction rules with
  | nil => simp [validateRules]
  | cons rule rest induction => simp [validateRules, seq_eq_ok, induction]

theorem Choice.validate_eq_ok {defined : Defined} {name : String} {branching : Choice} :
    branching.validate defined name = .ok () ↔
      branching.exit = ⟨none, false⟩ ∧ branching.rules ≠ [] ∧
        (∀ rule, rule ∈ branching.rules → rule.validate defined name = .ok ()) ∧
        (∀ target, branching.default = some target → defined target = true) := by
  obtain ⟨rules, default, ⟨next, isEnd⟩⟩ := branching
  cases next with
  | some target => simp [Choice.validate, refuse]
  | none =>
      cases isEnd with
      | true => simp [Choice.validate, refuse]
      | false =>
          cases rules with
          | nil => simp [Choice.validate, refuse]
          | cons rule rest =>
              cases default <;>
                simp [Choice.validate, seq_eq_ok, validateRules_eq_ok, checkTarget_eq_ok]

theorem Wait.validate_eq_ok {name : String} {delay : Wait} :
    delay.validate name = .ok () ↔ delay.durationCount = 1 := by
  unfold Wait.validate
  split
  · rename_i one
    simp [one]
  · rename_i other
    simp [other, refuse]

theorem validateCatchers_eq_ok {defined : Defined} {catchers : List Catcher} :
    validateCatchers defined catchers = .ok () ↔
      ∀ catcher, catcher ∈ catchers → defined catcher.next = true := by
  induction catchers with
  | nil => simp [validateCatchers]
  | cons catcher rest induction =>
      simp [validateCatchers, seq_eq_ok, checkTarget_eq_ok, induction]

theorem Recovery.validate_eq_ok {defined : Defined} {name : String}
    {recovery : Recovery} :
    recovery.validate defined name = .ok () ↔
      validateErrorLists name "Retry" 0 (recovery.retriers.map (·.errorEquals)) = .ok () ∧
        validateRetriers name recovery.retriers = .ok () ∧
        validateErrorLists name "Catch" 0 (recovery.catchers.map (·.errorEquals)) = .ok () ∧
        ∀ catcher, catcher ∈ recovery.catchers → defined catcher.next = true := by
  simp only [Recovery.validate, seq_eq_ok, validateCatchers_eq_ok]

theorem validateStates_eq_ok {defined : Defined} {states : List (String × State)} :
    validateStates defined states = .ok () ↔
      ∀ name state, (name, state) ∈ states → state.validate defined name = .ok () := by
  induction states with
  | nil => simp [validateStates]
  | cons entry rest induction =>
      obtain ⟨name, state⟩ := entry
      simp only [validateStates, seq_eq_ok, induction, List.mem_cons, Prod.mk.injEq]
      constructor
      · rintro ⟨first, later⟩ other found (⟨rfl, rfl⟩ | member)
        · exact first
        · exact later other found member
      · intro every
        exact ⟨every name state (.inl ⟨rfl, rfl⟩),
          fun other found member => every other found (.inr member)⟩

/-- A valid state goes on to a defined state or ends the run, or it is of a kind that
declares neither. -/
theorem State.validate_exit {defined : Defined} {name : String} {state : State}
    (valid : state.validate defined name = .ok ()) :
    state.exit.validate defined name = .ok () ∨
      state.exit = ⟨none, false⟩ ∧
        (state.kind = .choice ∨ state.kind = .succeed ∨ state.kind = .fail) := by
  cases state with
  | task frame work => exact .inl (seq_eq_ok.mp valid).1
  | pass frame given => exact .inl valid
  | choice frame branching =>
      rw [State.validate, Choice.validate_eq_ok] at valid
      exact .inr ⟨valid.1, .inl rfl⟩
  | wait frame delay => exact .inl (seq_eq_ok.mp valid).1
  | succeed frame => exact .inr ⟨rfl, .inr (.inl rfl)⟩
  | fail failing => exact .inr ⟨rfl, .inr (.inr rfl)⟩
  | map frame items => exact .inl (seq_eq_ok.mp valid).1
  | parallel frame branches payload recovery exit => exact .inl (seq_eq_ok.mp valid).1

theorem State.validate_taskCatchers {defined : Defined} {name : String} {frame : Frame}
    {work : Task} (valid : (State.task frame work).validate defined name = .ok ()) :
    ∀ catcher, catcher ∈ work.recovery.catchers → defined catcher.next = true := by
  rw [State.validate, seq_eq_ok] at valid
  obtain ⟨-, checked⟩ := valid
  split at checked
  · cases checked
  · exact (Recovery.validate_eq_ok.mp checked).2.2.2

theorem Machine.validate_eq_ok {machine : Machine} :
    machine.validate = .ok () ↔
      machine.states ≠ [] ∧ machine.defines machine.startAt = true ∧
        ∀ name state, (name, state) ∈ machine.states →
          state.validate machine.defines name = .ok () := by
  obtain ⟨startAt, states, comment, version, timeoutSeconds⟩ := machine
  change Machine.validate ⟨startAt, states, comment, version, timeoutSeconds⟩ = .ok () ↔
    states ≠ [] ∧ Members.contains startAt states = true ∧
      ∀ name state, (name, state) ∈ states →
        state.validate (fun name => Members.contains name states) name = .ok ()
  cases states with
  | nil => simp [Machine.validate, refuse]
  | cons entry rest =>
      cases found : Members.contains startAt (entry :: rest) with
      | false => simp [Machine.validate, found]
      | true => simp [Machine.validate, found, validateStates_eq_ok]

/-- A valid machine starts at a state of its own. -/
theorem Machine.defines_startAt {machine : Machine} (valid : machine.validate = .ok ()) :
    machine.defines machine.startAt = true :=
  (Machine.validate_eq_ok.mp valid).2.1

/-- The states that a valid machine finds by name are valid. -/
theorem Machine.validate_state {machine : Machine} (valid : machine.validate = .ok ())
    {name : String} {state : State} (found : machine.state? name = some state) :
    state.validate machine.defines name = .ok () :=
  (Machine.validate_eq_ok.mp valid).2.2 name state (Members.mem_of_get? found)

/-- A state that a machine defines can be found. -/
theorem Machine.exists_state {machine : Machine} {name : String}
    (defined : machine.defines name = true) :
    ∃ state, machine.state? name = some state :=
  Option.isSome_iff_exists.mp defined

end StatesLanguage
