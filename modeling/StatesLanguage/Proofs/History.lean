import Mathlib.Control.Monad.Basic
import StatesLanguage.Proofs.Course

/-!
# The history of a run

A finished run reports the states that it entered.  For a valid machine they make a
path of the machine: `Machine.Follows` is its edge relation and `Machine.IsHistory`
describes such a path, whole.
-/

namespace StatesLanguage

variable {Memory : Type}

/-- The machine itself names the second state as one that may follow the first. -/
inductive Machine.Follows (machine : Machine) (name next : String) : Prop where
  /-- The state declares it. -/
  | declared {state : State} (found : machine.state? name = some state)
      (goes : state.exit.next = some next)
  /-- A rule at the top of the Choice state names it. -/
  | rule {frame : Frame} {branching : Choice} {rule : Rule}
      (found : machine.state? name = some (.choice frame branching))
      (member : rule ∈ branching.rules) (named : rule.next = some next)
  /-- It is the default of the Choice state. -/
  | default {frame : Frame} {branching : Choice}
      (found : machine.state? name = some (.choice frame branching))
      (named : branching.default = some next)
  /-- A Catch entry of the task goes there. -/
  | caught {frame : Frame} {work : Task} {catcher : Catcher}
      (found : machine.state? name = some (.task frame work))
      (member : catcher ∈ work.recovery.catchers) (goes : catcher.next = next)

/-- The states that a finished run entered, under a limit. -/
structure Machine.IsHistory (machine : Machine) (limit : Nat) (names : List String) :
    Prop where
  startsAt : names.head? = some machine.startAt
  bounded : names.length ≤ limit
  /-- Every state is defined, and none is a Fail state. -/
  entered : ∀ name, name ∈ names →
    ∃ state, machine.state? name = some state ∧ state.kind ≠ .fail
  follows : ∀ before name next after, names = before ++ name :: next :: after →
    machine.Follows name next
  /-- The last state is a Succeed state or declares the end. -/
  ends : ∃ before last state, names = before ++ [last] ∧
    machine.state? last = some state ∧
      (state.kind = .succeed ∨ state.exit.isEnd = true)
  /-- Before the last state there is no Succeed state, and one that declares the end only
  if it is a task that is left through one of its Catch entries. -/
  continues : ∀ before name next after state, names = before ++ name :: next :: after →
    machine.state? name = some state →
      state.kind ≠ .succeed ∧
        (state.exit.isEnd = true →
          ∃ frame work catcher, state = .task frame work ∧
            catcher ∈ work.recovery.catchers ∧ catcher.next = next)

namespace Machine

variable {environment : Environment Memory} {machine : Machine}
  {context : ExecutionContext}

theorem follows_of_leavesFor {name next : String} {state : State}
    (found : machine.state? name = some state) (leaves : state.LeavesFor (some next)) :
    machine.Follows name next := by
  generalize target_eq : some next = target at leaves
  cases leaves with
  | declared unbranched working => exact .declared found target_eq.symm
  | rule member named =>
      cases target_eq
      exact .rule found member named
  | default named =>
      cases target_eq
      exact .default found named
  | caught member =>
      cases target_eq
      exact .caught found member rfl

/-- What holds of every state of a course and the one after it. -/
theorem Course.consecutive {position target : Position Memory} {names : List String}
    (course : Course environment machine context position names target)
    {before after : List String} {name next : String}
    (split : names ++ [target.name] = before ++ name :: next :: after) :
    ∃ state, machine.state? name = some state ∧ state.LeavesFor (some next) := by
  induction course generalizing before with
  | here position => cases before <;> simp at split
  | @enter position target output following progress names visited onward induction =>
      obtain ⟨state, found, leaves⟩ := visit_eq_ok visited
      cases before with
      | nil =>
          obtain ⟨rfl, rest⟩ := List.cons.inj split
          have head : following = next := by
            cases onward with
            | here position => exact (List.cons.inj rest).1
            | enter visited onward => exact (List.cons.inj rest).1
          rw [head] at leaves
          exact ⟨state, found, leaves⟩
      | cons first before => exact induction (List.cons.inj split).2

theorem Course.head {position target : Position Memory} {names : List String}
    (course : Course environment machine context position names target) :
    (names ++ [target.name]).head? = some position.name := by
  cases course with
  | here position => rfl
  | enter visited onward => rfl

theorem Course.left {position target : Position Memory} {names : List String}
    (course : Course environment machine context position names target) :
    ∀ name, name ∈ names →
      ∃ state next, machine.state? name = some state ∧ state.LeavesFor (some next) := by
  induction course with
  | here position =>
      intro name member
      cases member
  | @enter position target output next progress names visited onward induction =>
      intro name member
      rcases List.mem_cons.mp member with rfl | later
      · obtain ⟨state, found, leaves⟩ := visit_eq_ok visited
        exact ⟨state, next, found, leaves⟩
      · exact induction name later

/-- A finished run of a valid machine reports a path of the machine: from its first state,
along what its states declare, to a state that ends the run. -/
theorem run_isHistory (valid : machine.validate = .ok ())
    {executionId machineId : String} {input : Document} {memory : Memory}
    {completion : Completion}
    (finished :
      (machine.run environment executionId machineId input memory).1 = .ok completion) :
    machine.IsHistory environment.settings.maxTransitions completion.transitions := by
  obtain ⟨names, target, course, ending⟩ :=
    run_ending environment machine executionId machineId input memory
  generalize machine.run environment executionId machineId input memory = result
    at finished ending
  cases ending with
  | exhausted all => cases finished
  | failed within visited => cases finished
  | finished within visited =>
      cases finished
      obtain ⟨last, last_found, last_leaves⟩ := visit_eq_ok visited
      constructor
      · exact course.head
      · simp only [List.nil_append, List.length_append, List.length_singleton]
        omega
      · intro name member
        rcases List.mem_append.mp member with earlier | final
        · obtain ⟨state, next, found, leaves⟩ := course.left name earlier
          exact ⟨state, found, leaves.kind_ne_fail⟩
        · rw [List.mem_singleton.mp final]
          exact ⟨last, last_found, last_leaves.kind_ne_fail⟩
      · intro before name next after split
        obtain ⟨state, found, leaves⟩ := course.consecutive split
        exact follows_of_leavesFor found leaves
      · exact ⟨names, target.name, last, rfl, last_found,
          last_leaves.ends (machine.validate_state valid last_found)⟩
      · intro before name next after state split found
        obtain ⟨same, same_found, leaves⟩ := course.consecutive split
        rw [found] at same_found
        cases same_found
        exact leaves.continues (machine.validate_state valid found)

end Machine

theorem Machine.sorter_isHistory :
    sorter.validate = .ok () ∧
      (sorter.run (.refusing "Busy") "run" "desk" .empty ()).1 =
        .ok ⟨"run", .object [("refusal", TaskError.toDocument ⟨"Busy", ""⟩)],
          ["Ask", "Sort", "Done"]⟩ ∧
      sorter.IsHistory 25000 ["Ask", "Sort", "Done"] := by
  have valid : sorter.validate = .ok () := rfl
  have finished : (sorter.run (.refusing "Busy") "run" "desk" .empty ()).1 =
      .ok ⟨"run", .object [("refusal", TaskError.toDocument ⟨"Busy", ""⟩)],
        ["Ask", "Sort", "Done"]⟩ := by decide +kernel
  exact ⟨valid, finished, run_isHistory valid finished⟩

end StatesLanguage
