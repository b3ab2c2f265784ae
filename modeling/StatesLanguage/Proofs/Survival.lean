import StatesLanguage.Proofs.Assignment
import StatesLanguage.Proofs.Course

/-!
# Members that nobody writes

Results and caught errors are placed into the raw input of a state, so a member of the
input that no path of a machine leads to is handed on from state to state.  What counts of
a member is what `Document.member?` finds; everything below it survives with it.
-/

namespace StatesLanguage

open Outcome

variable {Memory : Type}

/-- What goes to the place of the attribute goes nowhere, or below another member. -/
inductive PathAttribute.Avoids (key : String) : PathAttribute → Prop where
  | null : Avoids key .null
  | path {expression name : String} {rest : List Path.Step}
      (parsed : Path.read expression = .ok ⟨.document, .key name :: rest⟩)
      (elsewhere : name ≠ key) : Avoids key (.path expression)

/-- A state writes nothing below a member, and hands on the whole document. -/
structure State.Spares (key : String) (state : State) : Prop where
  outputs : state.frame.outputPath = .absent
  places : state.kind ∈ [.task, .pass, .map, .parallel] →
    state.payload.resultPath.Avoids key
  catches : ∀ catcher, catcher ∈ state.recovery.catchers → catcher.resultPath.Avoids key
  passes : state.kind ∈ [.choice, .wait, .succeed] → state.frame.inputPath = .absent

theorem Document.resolve_eq_of_member? {document other : Document} {key expression : String}
    {rest : List Path.Step}
    (parsed : Path.read expression = .ok ⟨.document, .key key :: rest⟩)
    (same : document.member? key = other.member? key) (context : Document) :
    document.resolve expression context = other.resolve expression context := by
  have selected : Path.Step.select (.key key) document =
      Path.Step.select (.key key) other := by
    simp only [Path.Step.select, same]
  have followed : Path.follow (.key key :: rest) document =
      Path.follow (.key key :: rest) other := by
    rw [Path.follow, Path.follow, selected]
  unfold Document.resolve
  rw [parsed]
  exact congrArg (Except.mapError (·.toFailure expression)) followed

theorem PathAttribute.splice_path_eq_ok {expression : String}
    {input result output : Document} :
    (PathAttribute.path expression).splice input result = .ok output ↔
      input.assign expression result = (output, .ok ()) := by
  unfold splice
  dsimp only
  split
  · rename_i left assigned
    simp [assigned]
  · rename_i left failure assigned
    simp [assigned]

/-- An assignment that starts at one member leaves the others. -/
theorem Path.Assigns.member?_eq {value document left : Document} {name key : String}
    {rest : List Step} (assigned : Assigns value (.key name :: rest) document left)
    (elsewhere : name ≠ key) : left.member? key = document.member? key := by
  cases assigned with
  | member inner => exact Members.get?_insert_of_ne (Ne.symm elsewhere) _ _

theorem PathAttribute.Avoids.member?_splice {key : String} {selector : PathAttribute}
    (avoids : selector.Avoids key) {input result output : Document}
    (spliced : selector.splice input result = .ok output) :
    output.member? key = input.member? key := by
  cases avoids with
  | null =>
      cases spliced
      rfl
  | path parsed elsewhere =>
      obtain ⟨steps, same, assigned⟩ :=
        Document.assign_eq_ok.mp (splice_path_eq_ok.mp spliced)
      rw [parsed] at same
      cases same
      exact assigned.member?_eq elsewhere

/-- What a catcher takes over is the raw input with the error placed into it. -/
theorem Task.perform_eq_diverted {environment : Environment Memory} {name : String}
    {work : Task} {input rawInput output : Document} {next : String}
    {progress after : Progress Memory}
    (performed : work.perform environment name input rawInput progress =
      (.ok (.diverted output next), after)) :
    ∃ catcher taskError, catcher ∈ work.recovery.catchers ∧ catcher.next = next ∧
      catcher.resultPath.splice rawInput (TaskError.toDocument taskError) = .ok output := by
  have outcome := Task.perform_outcome environment name work input rawInput progress
  rw [performed] at outcome
  rcases outcome with ⟨value, same⟩ | ⟨catcher, taskError, member, same⟩ | ⟨taskError, same⟩
  · cases same
  · obtain ⟨placed, spliced, same⟩ := map_eq_ok.mp same.symm
    cases same
    exact ⟨catcher, taskError, member, rfl, spliced⟩
  · cases same

namespace State

variable {key : String} {state : State}

theorem Spares.conclude_result (spares : state.Spares key)
    (placing : state.kind ∈ [.task, .pass, .map, .parallel])
    {rawInput context value output : Document} {next out : Option String}
    (concluded :
      state.conclude rawInput context (.result value next) = .ok (output, out)) :
    output.member? key = rawInput.member? key := by
  obtain ⟨-, shaped, placed, spliced, selected⟩ := State.conclude_result concluded
  rw [spares.outputs] at selected
  cases selected
  exact (spares.places placing).member?_splice spliced

/-- A state without a payload of its own hands on its input. -/
theorem Spares.step_passes (spares : state.Spares key)
    (passing : state.kind ∈ [.choice, .wait, .succeed])
    (bare : state.payload = ⟨none, none, .absent⟩)
    {rawInput context input output : Document} {next out : Option String}
    (effective : state.effectiveInput rawInput context = .ok input)
    (concluded :
      state.conclude rawInput context (.result input next) = .ok (output, out)) :
    output = rawInput := by
  have whole : input = rawInput := by
    rw [effectiveInput, spares.passes passing, bare] at effective
    cases effective
    rfl
  rw [State.conclude, bare, spares.outputs] at concluded
  cases concluded
  exact whole

theorem Spares.step {environment : Environment Memory} (spares : state.Spares key)
    {name : String} {rawInput context output : Document} {next : Option String}
    {progress after : Progress Memory}
    (stepped :
      state.step environment name rawInput context progress = (.ok (output, next), after)) :
    output.member? key = rawInput.member? key := by
  unfold State.step at stepped
  split at stepped
  · cases stepped
  rename_i input effective
  dsimp only at stepped
  obtain ⟨stepped, -⟩ := Prod.mk.inj stepped
  obtain ⟨decision, performed, concluded⟩ := bind_eq_ok.mp stepped
  cases state with
  | task frame work =>
      cases decision with
      | result value declared => exact spares.conclude_result (by simp [State.kind]) concluded
      | diverted caught declared =>
          obtain ⟨catcher, taskError, member, -, spliced⟩ :=
            Task.perform_eq_diverted (Prod.ext performed rfl)
          cases concluded
          exact (spares.catches catcher member).member?_splice spliced
  | pass frame given =>
      cases performed
      exact spares.conclude_result (by simp [State.kind]) concluded
  | map frame items =>
      cases performed
      exact spares.conclude_result (by simp [State.kind]) concluded
  | parallel frame branches payload recovery exit =>
      cases performed
      exact spares.conclude_result (by simp [State.kind]) concluded
  | choice frame branching =>
      obtain ⟨chosen, -, same⟩ := map_eq_ok.mp performed
      cases same
      rw [spares.step_passes (by simp [State.kind]) rfl effective concluded]
  | wait frame delay =>
      simp only [State.perform] at performed
      split at performed
      · cases performed
      · cases performed
        rw [spares.step_passes (by simp [State.kind]) rfl effective concluded]
  | succeed frame =>
      cases performed
      rw [spares.step_passes (by simp [State.kind]) rfl effective concluded]
  | fail failing => cases performed

end State

namespace Machine

variable {environment : Environment Memory} {machine : Machine}
  {context : ExecutionContext} {key : String}

theorem visit_spares
    (spares : ∀ name state, machine.state? name = some state → state.Spares key)
    {position : Position Memory} {output : Document} {next : Option String}
    {progress : Progress Memory}
    (visited : machine.visit environment context position =
      (.ok (output, next), progress)) :
    output.member? key = position.document.member? key := by
  unfold visit at visited
  split at visited
  · cases visited
  · rename_i state found
    exact (spares _ state found).step visited

theorem Course.spares
    (spares : ∀ name state, machine.state? name = some state → state.Spares key)
    {position target : Position Memory} {names : List String}
    (course : Course environment machine context position names target) :
    target.document.member? key = position.document.member? key := by
  induction course with
  | here position => rfl
  | enter visited onward induction => exact induction.trans (visit_spares spares visited)

/-- In the output of a finished run, a path finds below a member that no state writes what
it finds in the input, or fails as it does there. -/
theorem run_spares
    (spares : ∀ name state, machine.state? name = some state → state.Spares key)
    {executionId machineId : String} {input : Document} {memory : Memory}
    {completion : Completion}
    (finished :
      (machine.run environment executionId machineId input memory).1 = .ok completion)
    {expression : String} {rest : List Path.Step}
    (parsed : Path.read expression = .ok ⟨.document, .key key :: rest⟩)
    (context : Document) :
    completion.output.resolve expression context = input.resolve expression context := by
  obtain ⟨names, target, course, ending⟩ :=
    run_ending environment machine executionId machineId input memory
  generalize machine.run environment executionId machineId input memory = result
    at finished ending
  cases ending with
  | exhausted all => cases finished
  | failed within visited => cases finished
  | finished within visited =>
      cases finished
      have last := visit_spares spares visited
      have before := course.spares spares
      exact Document.resolve_eq_of_member? parsed (last.trans before) context

end Machine

/-- A task, a note of its refusal, a rest, and the end. -/
def Machine.clerk : Machine where
  startAt := "Ask"
  states :=
    [("Ask", .task ⟨none, .absent, .absent⟩
        { resource := "desk"
          payload := ⟨none, none, .path "$.answer"⟩
          recovery := ⟨[], [⟨["States.ALL"], .path "$.refusal", "Note"⟩]⟩
          timeoutSeconds := none
          timeoutSecondsPath := none
          heartbeatSeconds := none
          heartbeatSecondsPath := none
          exit := ⟨some "Note", false⟩ }),
      ("Done", .succeed ⟨none, .absent, .absent⟩),
      ("Note", .pass ⟨none, .path "$.refusal", .absent⟩
        { parameters := none
          result := none
          resultPath := .path "$.notes.last"
          exit := ⟨some "Rest", false⟩ }),
      ("Rest", .wait ⟨none, .absent, .absent⟩
        { seconds := some 0
          secondsPath := none
          timestamp := none
          timestampPath := none
          exit := ⟨some "Done", false⟩ })]
  comment := none
  version := none
  timeoutSeconds := none

theorem Machine.clerk_state_spares (name : String) (state : State)
    (found : clerk.state? name = some state) : state.Spares "orders" := by
  have answer : PathAttribute.Avoids "orders" (.path "$.answer") :=
    @PathAttribute.Avoids.path _ _ "answer" [] (by decide +kernel) (by decide)
  have refusal : PathAttribute.Avoids "orders" (.path "$.refusal") :=
    @PathAttribute.Avoids.path _ _ "refusal" [] (by decide +kernel) (by decide)
  have notes : PathAttribute.Avoids "orders" (.path "$.notes.last") :=
    @PathAttribute.Avoids.path _ _ "notes" [.key "last"] (by decide +kernel) (by decide)
  have member := Members.mem_of_get? found
  simp only [clerk, List.mem_cons, Prod.mk.injEq, List.not_mem_nil, or_false] at member
  rcases member with ⟨-, rfl⟩ | ⟨-, rfl⟩ | ⟨-, rfl⟩ | ⟨-, rfl⟩
  · refine ⟨rfl, fun _ => answer, ?_, fun _ => rfl⟩
    intro catcher caught
    rw [List.mem_singleton.mp caught]
    exact refusal
  · exact ⟨rfl, by simp [State.kind], by simp [State.recovery], fun _ => rfl⟩
  · exact ⟨rfl, fun _ => notes, by simp [State.recovery], by simp [State.kind]⟩
  · exact ⟨rfl, by simp [State.kind], by simp [State.recovery], fun _ => rfl⟩

/-- What is left of an order when the clerk has dealt with it. -/
def Machine.clerkReport : Document :=
  .object
    [("notes", .object [("last", TaskError.toDocument ⟨"Busy", ""⟩)]),
      ("orders", .array [.object [("id", .ofNat 7)]]),
      ("refusal", TaskError.toDocument ⟨"Busy", ""⟩)]

theorem Machine.clerk_spares :
    (∀ name state, clerk.state? name = some state → state.Spares "orders") ∧
      (clerk.run (.refusing "Busy") "run" "desk" (.orders [("id", .ofNat 7)]) ()).1 =
        .ok ⟨"run", clerkReport, ["Ask", "Note", "Rest", "Done"]⟩ ∧
      Path.read "$.orders[0].id" =
        .ok ⟨.document, [.key "orders", .index 0, .key "id"]⟩ ∧
      clerkReport.resolve "$.orders[0].id" .null =
        (Document.orders [("id", .ofNat 7)]).resolve "$.orders[0].id" .null := by
  have finished :
      (clerk.run (.refusing "Busy") "run" "desk" (.orders [("id", .ofNat 7)]) ()).1 =
        .ok ⟨"run", clerkReport, ["Ask", "Note", "Rest", "Done"]⟩ := by decide +kernel
  have parsed : Path.read "$.orders[0].id" =
      .ok ⟨.document, [.key "orders", .index 0, .key "id"]⟩ := by decide +kernel
  have spares := clerk_state_spares
  exact ⟨spares, finished, parsed, run_spares spares finished parsed .null⟩

end StatesLanguage
