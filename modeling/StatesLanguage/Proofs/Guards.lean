import StatesLanguage.Proofs.Answers

/-!
# What Retry and Catch lists act on

Two machines that differ in their Retry and Catch lists only run alike as long as no
resolver answers with an error.  Failures of any other origin never come to these lists:
neither those before a resolver is asked, nor those in place of asking, nor those after it
has answered.
-/

namespace StatesLanguage

variable {Memory : Type}

mutual

/-- A state without its Retry and Catch lists, also in its branches. -/
def State.unguarded : State → State
  | .task frame work => .task frame { work with recovery := ⟨[], []⟩ }
  | .pass frame given => .pass frame given
  | .choice frame branching => .choice frame branching
  | .wait frame delay => .wait frame delay
  | .succeed frame => .succeed frame
  | .fail failing => .fail failing
  | .map frame items => .map frame { items with recovery := ⟨[], []⟩ }
  | .parallel frame branches payload _ exit =>
      .parallel frame (Machine.unguardedAll branches) payload ⟨[], []⟩ exit

/-- A machine whose states are without their Retry and Catch lists. -/
def Machine.unguarded : Machine → Machine
  | ⟨startAt, states, comment, version, timeoutSeconds⟩ =>
      ⟨startAt, State.unguardedAll states, comment, version, timeoutSeconds⟩

def State.unguardedAll : List (String × State) → List (String × State)
  | [] => []
  | (name, state) :: rest => (name, State.unguarded state) :: State.unguardedAll rest

def Machine.unguardedAll : List Machine → List Machine
  | [] => []
  | machine :: rest => Machine.unguarded machine :: Machine.unguardedAll rest

end

theorem Machine.startAt_unguarded (machine : Machine) :
    machine.unguarded.startAt = machine.startAt := by
  cases machine
  rw [unguarded]

theorem Members.get?_unguardedAll (name : String) (states : List (String × State)) :
    Members.get? name (State.unguardedAll states) =
      (Members.get? name states).map State.unguarded := by
  induction states with
  | nil => rfl
  | cons member rest induction =>
      obtain ⟨other, state⟩ := member
      rw [State.unguardedAll, get?, get?, induction]
      split <;> rfl

theorem Machine.state?_unguarded (machine : Machine) (name : String) :
    machine.unguarded.state? name = (machine.state? name).map State.unguarded := by
  cases machine
  rw [unguarded]
  exact Members.get?_unguardedAll name _

namespace State

theorem kind_unguarded (state : State) : state.unguarded.kind = state.kind := by
  cases state <;> rfl

theorem frame_unguarded (state : State) : state.unguarded.frame = state.frame := by
  cases state <;> rfl

theorem payload_unguarded (state : State) : state.unguarded.payload = state.payload := by
  cases state <;> rfl

theorem effectiveInput_unguarded (state : State) (rawInput context : Document) :
    state.unguarded.effectiveInput rawInput context =
      state.effectiveInput rawInput context := by
  unfold effectiveInput
  rw [frame_unguarded, payload_unguarded]

theorem conclude_unguarded (state : State) (rawInput context : Document)
    (decision : Decision) :
    state.unguarded.conclude rawInput context decision =
      state.conclude rawInput context decision := by
  cases decision with
  | diverted output next => rfl
  | result value next => rw [conclude, conclude, frame_unguarded, payload_unguarded]

/-- Only a task looks at its lists. -/
theorem perform_unguarded {state : State} (workless : state.kind ≠ .task)
    (environment : Environment Memory) (name : String) (input rawInput context : Document)
    (progress : Progress Memory) :
    state.unguarded.perform environment name input rawInput context progress =
      state.perform environment name input rawInput context progress := by
  cases state with
  | task frame work => exact (workless rfl).elim
  | _ => rfl

theorem eq_task_of_unguarded {frame : Frame} {work : Task} {state : State}
    (alike : (State.task frame work).unguarded = state.unguarded) :
    ∃ recovery, state = .task frame { work with recovery := recovery } := by
  cases state with
  | task otherFrame other =>
      simp only [unguarded, State.task.injEq] at alike
      obtain ⟨rfl, same⟩ := alike
      refine ⟨other.recovery, ?_⟩
      have restored := congrArg (fun task : Task => { task with recovery := other.recovery })
        same
      rw [restored]
  | _ => simp [unguarded] at alike

end State

/-- The first answer to a task is in the log when the task is done. -/
theorem Task.answer_mem_answers {environment : Environment Memory} {name resolver : String}
    {work : Task} (found : work.resolver? environment.resolvers name = some resolver)
    (input rawInput : Document) (progress : Progress (Memory × AnswerLog)) :
    (environment.resolvers.invoke resolver input progress.memory.1).1 ∈
      (work.perform environment.logged name input rawInput progress).2.answers := by
  have keeps := environment.logged_keeps_answer
    (environment.resolvers.invoke resolver input progress.memory.1).1
  have same : work.resolver? environment.logged.resolvers name = some resolver := found
  apply Task.perform_keeps_first keeps same
  exact List.mem_append_right _ List.mem_cons_self

/-- If the first answer is a value, the lists of a task do not matter. -/
theorem Task.perform_of_answer {environment : Environment Memory} {name resolver : String}
    {work : Task} (found : work.resolver? environment.resolvers name = some resolver)
    {input : Document} {progress : Progress Memory} {value : Document}
    (answered :
      (environment.resolvers.invoke resolver input progress.memory).1 = .ok value)
    (rawInput : Document) :
    work.perform environment name input rawInput progress =
      (.ok (.result value work.exit.next),
        ((work.workplace environment resolver input).attempt 1 progress).2) := by
  have attempt : (work.workplace environment resolver input).attempt 1 progress =
      (.ok value, ((work.workplace environment resolver input).attempt 1 progress).2) := by
    exact Prod.ext answered rfl
  have ended : (work.policy environment).run work.recovery.retriers
      (work.workplace environment resolver input) progress = _ :=
    RetryPolicy.attemptFrom_ok attempt
  rw [Task.perform_eq found, ended]
  rfl

theorem Task.perform_eq_of_flawless {environment : Environment Memory} {name : String}
    {work : Task} {input rawInput : Document} {progress : Progress (Memory × AnswerLog)}
    (flawless :
      (work.perform environment.logged name input rawInput progress).2.answers.Flawless)
    (recovery : Recovery) :
    Task.perform environment name { work with recovery := recovery } input rawInput
        progress.unlogged =
      work.perform environment name input rawInput progress.unlogged := by
  cases found : work.resolver? environment.resolvers name with
  | none =>
      have same : Task.resolver? environment.resolvers name
          { work with recovery := recovery } = none := found
      rw [Task.perform_of_unresolved found, Task.perform_of_unresolved same]
      rfl
  | some resolver =>
      have same : Task.resolver? environment.resolvers name
          { work with recovery := recovery } = some resolver := found
      have member := Task.answer_mem_answers found input rawInput progress
      obtain ⟨value, answered⟩ := flawless _ member
      rw [Task.perform_of_answer found answered, Task.perform_of_answer same answered]
      rfl

theorem State.step_eq_of_flawless {environment : Environment Memory} {first second : State}
    (alike : first.unguarded = second.unguarded) {name : String}
    {rawInput context : Document} {progress : Progress (Memory × AnswerLog)}
    (flawless :
      (first.step environment.logged name rawInput context progress).2.answers.Flawless) :
    second.step environment name rawInput context progress.unlogged =
      first.step environment name rawInput context progress.unlogged := by
  have effective : second.effectiveInput rawInput context =
      first.effectiveInput rawInput context := by
    rw [← effectiveInput_unguarded, ← alike, effectiveInput_unguarded]
  have concluded : second.conclude rawInput context = first.conclude rawInput context := by
    funext decision
    rw [← conclude_unguarded, ← alike, conclude_unguarded]
  unfold step at flawless ⊢
  rw [effective, concluded]
  split
  · rfl
  · rename_i input selected
    rw [selected] at flawless
    have performed : second.perform environment name input rawInput context
          progress.unlogged =
        first.perform environment name input rawInput context progress.unlogged := by
      by_cases task : first.kind = .task
      · cases first with
        | task frame work =>
            obtain ⟨recovery, rfl⟩ := eq_task_of_unguarded alike
            exact Task.perform_eq_of_flawless flawless recovery
        | _ => cases task
      · have otherTask : second.kind ≠ .task := by
          rwa [← kind_unguarded, ← alike, kind_unguarded]
        rw [← perform_unguarded otherTask, ← alike, perform_unguarded task]
    rw [performed]

namespace Machine

variable {environment : Environment Memory} {first second : Machine}
  {context : ExecutionContext}

theorem visit_eq_of_flawless (alike : first.unguarded = second.unguarded)
    {position : Position (Memory × AnswerLog)}
    (flawless : (first.visit environment.logged context position).2.answers.Flawless) :
    second.visit environment context position.unlogged =
      first.visit environment context position.unlogged := by
  have states := congrArg (fun machine => machine.state? position.name) alike
  simp only [state?_unguarded] at states
  unfold visit at flawless ⊢
  dsimp only [Position.unlogged] at flawless ⊢
  cases found : first.state? position.name with
  | none =>
      rw [found, Option.map_none] at states
      rw [Option.map_eq_none_iff.mp states.symm]
  | some state =>
      rw [found, Option.map_some] at states
      obtain ⟨other, otherFound, same⟩ := Option.map_eq_some_iff.mp states.symm
      have kind : other.kind = state.kind := by
        rw [← State.kind_unguarded, same, State.kind_unguarded]
      rw [found] at flawless
      rw [otherFound]
      dsimp only [Position.contextDocument, Position.entered] at flawless ⊢
      rw [kind]
      exact State.step_eq_of_flawless same.symm flawless

theorem mem_answers_of_visit {machine : Machine} {position : Position (Memory × AnswerLog)}
    {answer : Except TaskError Document} (before : answer ∈ position.progress.answers) :
    answer ∈ (machine.visit environment.logged context position).2.answers := by
  unfold visit
  split
  · exact before
  · exact State.step_keeps (environment.logged_keeps_answer answer) _ _ _ _ _ before

theorem Course.mem_answers {machine : Machine} {position target : Position (Memory × AnswerLog)}
    {names : List String}
    (course : Course environment.logged machine context position names target)
    {answer : Except TaskError Document} (before : answer ∈ position.progress.answers) :
    answer ∈ target.progress.answers := by
  induction course with
  | here position => exact before
  | @enter position target output next progress names visited onward induction =>
      have after := @mem_answers_of_visit _ environment context machine position answer before
      rw [visited] at after
      exact induction after

/-- As long as no answer is an error, the other machine takes the same course. -/
theorem Course.of_flawless (alike : first.unguarded = second.unguarded)
    {position target : Position (Memory × AnswerLog)} {names : List String}
    (course : Course environment.logged first context position names target)
    (flawless : target.progress.answers.Flawless) :
    Course environment second context position.unlogged names target.unlogged := by
  induction course with
  | here position => exact .here position.unlogged
  | @enter position target output next progress names visited onward induction =>
      have answered : progress.answers.Flawless :=
        fun answer member => flawless answer (onward.mem_answers member)
      have plain := visit_logged environment first context position
      rw [visited] at plain
      have same := @visit_eq_of_flawless _ environment first second context alike position
      rw [visited, plain] at same
      exact .enter (same answered) (induction flawless)

theorem Ending.of_flawless (alike : first.unguarded = second.unguarded) {allowed : Nat}
    {before names : List String} {target : Position (Memory × AnswerLog)}
    {result : Except Failure Completion × Progress (Memory × AnswerLog)}
    (ending : Ending environment.logged first context allowed before names target result)
    (flawless : result.2.answers.Flawless) :
    Ending environment second context allowed before names target.unlogged
      (result.1, result.2.unlogged) := by
  have plain := visit_logged environment first context target
  have same := @visit_eq_of_flawless _ environment first second context alike target
  cases ending with
  | exhausted all => exact .exhausted all
  | failed within visited =>
      rw [visited] at plain same
      exact .failed within ((same flawless).trans plain)
  | finished within visited =>
      rw [visited] at plain same
      exact .finished within ((same flawless).trans plain)

theorem Ending.mem_answers {machine : Machine} {allowed : Nat}
    {before names : List String} {target : Position (Memory × AnswerLog)}
    {result : Except Failure Completion × Progress (Memory × AnswerLog)}
    (ending : Ending environment.logged machine context allowed before names target result)
    {answer : Except TaskError Document} (member : answer ∈ target.progress.answers) :
    answer ∈ result.2.answers := by
  have after := @mem_answers_of_visit _ environment context machine target answer member
  cases ending with
  | exhausted all => exact member
  | failed within visited =>
      rw [visited] at after
      exact after
  | finished within visited =>
      rw [visited] at after
      exact after

theorem run_eq_of_flawless (alike : first.unguarded = second.unguarded)
    {executionId machineId : String} {input : Document} {memory : Memory}
    (flawless :
      (first.runAnswers environment executionId machineId input memory).Flawless) :
    second.run environment executionId machineId input memory =
      first.run environment executionId machineId input memory := by
  obtain ⟨names, target, course, ending⟩ :=
    run_ending environment.logged first executionId machineId input (memory, [])
  have startAt : second.startAt = first.startAt := by
    rw [← startAt_unguarded, ← alike, startAt_unguarded]
  have start : (first.start executionId input (memory, ([] : AnswerLog))).unlogged =
      second.start executionId input memory := by
    unfold Machine.start
    rw [startAt]
    rfl
  have other := course.of_flawless alike
    fun answer member => flawless answer (ending.mem_answers member)
  rw [start] at other
  have plain := run_logged environment first executionId machineId input memory
  rw [plain]
  exact run_eq_of_ending other (ending.of_flawless alike flawless)

end Machine

/-- The answers to a task are errors up to the last one, and if that is a value, then it is
the result of the work. -/
theorem Task.perform_answers {environment : Environment Memory} {name resolver : String}
    {work : Task} (found : work.resolver? environment.resolvers name = some resolver)
    (input rawInput : Document) (progress : Progress Memory) :
    ∃ earlier last,
      (work.perform environment.logged name input rawInput progress.logged).2.answers =
        earlier ++ [last] ∧
      (∀ answer, answer ∈ earlier → ∃ taskError, answer = .error taskError) ∧
      ∀ value, last = .ok value →
        (work.perform environment name input rawInput progress).1 =
          .ok (.result value work.exit.next) := by
  have same : work.resolver? environment.logged.resolvers name = some resolver := found
  obtain ⟨earlier, last, resolution, final, ran, logged, settles⟩ :=
    (work.policy environment).run_settles work.recovery.retriers
      (work.workplace environment resolver input) progress
  have shown := RetryPolicy.attemptFrom_map
    (fun detail : Progress Memory × AnswerLog =>
      (⟨(detail.1.memory, detail.2), detail.1.journal⟩ : Progress (Memory × AnswerLog)))
    (work.workplace environment.logged resolver input)
    (work.workplace environment resolver input).logged
    (fun _ _ => rfl) (fun _ _ => rfl) (work.policy environment.logged) 1
    (work.recovery.retriers.map (Budget.mk · 0)) (progress, [])
  have counted : (work.policy environment.logged).attemptFrom
      (work.workplace environment resolver input).logged 1
      (work.recovery.retriers.map (Budget.mk · 0)) (progress, []) = _ := logged
  rw [counted] at shown
  have kept : (work.perform environment.logged name input rawInput
      progress.logged).2.answers = earlier ++ [last] := by
    rw [perform_eq same]
    exact congrArg (fun ended => ended.2.answers) shown
  refine ⟨earlier, last, kept, ?_, ?_⟩
  · intro answer member
    obtain ⟨before, after, split⟩ := List.append_of_mem member
    cases answer with
    | ok value => exact (settles.goesOn _ _ _ split (.succeeded value)).elim
    | error taskError => exact ⟨taskError, rfl⟩
  · rintro value rfl
    have led := settles.leadsTo
    rw [perform_eq found, ran]
    cases led with
    | completed value => rfl

namespace State

/-- Answers come from the resolver of a task only. -/
theorem perform_answers_of_ne_task {environment : Environment Memory} {name : String}
    {state : State} (workless : state.kind ≠ .task) (input rawInput context : Document)
    (progress : Progress Memory) :
    (state.perform environment.logged name input rawInput context
      progress.logged).2.answers = [] := by
  cases state with
  | task frame work => exact (workless rfl).elim
  | wait frame delay =>
      simp only [perform]
      split
      · rfl
      · unfold pause
        dsimp only
        split <;> rfl
  | _ => rfl

theorem step_answers {environment : Environment Memory} {name : String} {state : State}
    {rawInput context : Document} {progress : Progress Memory} {earlier : AnswerLog}
    {last : Except TaskError Document}
    (kept : (state.step environment.logged name rawInput context
      progress.logged).2.answers = earlier ++ [last]) :
    (∀ answer, answer ∈ earlier → ∃ taskError, answer = .error taskError) ∧
      ∀ value, last = .ok value →
        (state.step environment name rawInput context progress).1 =
          state.conclude rawInput context (.result value state.exit.next) := by
  unfold step at kept ⊢
  split
  · rename_i failure failed
    rw [failed] at kept
    exact absurd kept (by simp [Progress.logged, Progress.answers])
  · rename_i input effective
    rw [effective] at kept
    dsimp only at kept ⊢
    by_cases task : state.kind = .task
    · cases state with
      | task frame work =>
          cases found : work.resolver? environment.resolvers name with
          | none =>
              have still := @Task.perform_of_unresolved _ environment.logged name work found
                input rawInput progress.logged
              rw [perform, still] at kept
              exact absurd kept (by simp [Progress.logged, Progress.answers])
          | some resolver =>
              obtain ⟨others, final, counted, failed, succeeded⟩ :=
                Task.perform_answers found input rawInput progress
              have split := counted.symm.trans kept
              obtain ⟨rfl, same⟩ := List.append_inj' split rfl
              cases same
              refine ⟨failed, fun value done => ?_⟩
              have performed := succeeded value done
              rw [perform, performed]
              rfl
      | _ => cases task
    · rw [perform_answers_of_ne_task task] at kept
      simp at kept

end State

namespace Machine

theorem visit_answers {environment : Environment Memory} {machine : Machine}
    {context : ExecutionContext} {position : Position Memory} {earlier : AnswerLog}
    {last : Except TaskError Document}
    (kept : machine.visitAnswers environment context position = earlier ++ [last]) :
    (∀ answer, answer ∈ earlier → ∃ taskError, answer = .error taskError) ∧
      ∀ value, last = .ok value → ∃ state,
        machine.state? position.name = some state ∧
        (machine.visit environment context position).1 =
          state.conclude position.document
            (position.contextDocument environment context state)
            (.result value state.exit.next) := by
  unfold visitAnswers visit at kept
  unfold visit
  dsimp only [Position.logged] at kept
  cases found : machine.state? position.name with
  | none =>
      rw [found] at kept
      exact absurd kept (by simp [Progress.logged, Progress.answers])
  | some state =>
      rw [found] at kept
      obtain ⟨failed, succeeded⟩ :=
        @State.step_answers _ environment position.name state _ _ (position.entered state)
          _ _ kept
      exact ⟨failed, fun value done => ⟨state, rfl, succeeded value done⟩⟩

/-- Retry and Catch lists act on the answers of resolvers only.  Machines that differ in
these lists run alike as long as no answer is an error, and so does each visit of a state,
whatever happened before it.  Within a visit, only an error is followed by another attempt,
and a value that is answered is shaped and placed as if there were no lists.  A visit that
fails for any reason is the end of the run. -/
theorem lists_act_on_answers {first second : Machine}
    (alike : first.unguarded = second.unguarded) (environment : Environment Memory)
    (executionId machineId : String) (input : Document) (memory : Memory) :
    ((first.runAnswers environment executionId machineId input memory).Flawless →
      second.run environment executionId machineId input memory =
        first.run environment executionId machineId input memory) ∧
    (∀ context position,
      (first.visitAnswers environment context position).Flawless →
        second.visit environment context position =
          first.visit environment context position) ∧
    (∀ context position earlier last,
      first.visitAnswers environment context position = earlier ++ [last] →
        (∀ answer, answer ∈ earlier → ∃ taskError, answer = .error taskError) ∧
        ∀ value, last = .ok value → ∃ state,
          first.state? position.name = some state ∧
          (first.visit environment context position).1 =
            state.conclude position.document
              (position.contextDocument environment context state)
              (.result value state.exit.next)) ∧
    ∀ names position failure progress,
      Course environment first (runContext environment executionId machineId input)
        (first.start executionId input memory) names position →
      names.length < environment.settings.maxTransitions →
      first.visit environment (runContext environment executionId machineId input)
        position = (.error failure, progress) →
        first.run environment executionId machineId input memory =
          (.error failure, progress) := by
  refine ⟨run_eq_of_flawless alike, ?_, ?_, ?_⟩
  · intro context position flawless
    exact visit_eq_of_flawless alike flawless
  · intro context position earlier last kept
    exact visit_answers kept
  · intro names position failure progress course within visited
    exact run_eq_of_ending course (.failed within visited)

end Machine

/-- A task whose result has to have a total. -/
def Machine.prober (recovery : Recovery) : Machine where
  startAt := "Ask"
  states :=
    [("Ask", .task ⟨none, .absent, .absent⟩
        { resource := "desk"
          payload := ⟨none, some (.object [("sum.$", .string "$.total")]), .absent⟩
          recovery := recovery
          timeoutSeconds := none
          timeoutSecondsPath := none
          heartbeatSeconds := none
          heartbeatSecondsPath := none
          exit := ⟨none, true⟩ })]
  comment := none
  version := none
  timeoutSeconds := none

/-- Lists that cover every error. -/
def Recovery.ofAll : Recovery :=
  ⟨[⟨["States.ALL"], none, none, some 3, none⟩], [⟨["States.ALL"], .null, "Ask"⟩]⟩

/-- A run that is about to ask a desk that is busy a number of times. -/
def Machine.proberStart (left : Nat) : Position Nat :=
  (prober .ofAll).start "run" .empty left

/-- The answer has no total, and no list is of any help: neither if it is the first answer,
nor if it comes after a retry. -/
theorem Machine.prober_lists_act_on_answers :
    (prober ⟨[], []⟩).unguarded = (prober .ofAll).unguarded ∧
      (prober ⟨[], []⟩).runAnswers .busy "run" "desk" .empty 0 = [.ok .empty] ∧
      (prober .ofAll).run .busy "run" "desk" .empty 0 =
        (prober ⟨[], []⟩).run .busy "run" "desk" .empty 0 ∧
      (prober ⟨[], []⟩).visitAnswers .busy (runContext .busy "run" "desk" .empty)
        (proberStart 0) = [.ok .empty] ∧
      (prober .ofAll).visit .busy (runContext .busy "run" "desk" .empty) (proberStart 0) =
        (prober ⟨[], []⟩).visit .busy (runContext .busy "run" "desk" .empty)
          (proberStart 0) ∧
      (prober .ofAll).visitAnswers .busy (runContext .busy "run" "desk" .empty)
        (proberStart 1) = [.error ⟨"Busy", ""⟩] ++ [.ok .empty] ∧
      (∃ state, (prober .ofAll).state? "Ask" = some state ∧
        ((prober .ofAll).visit .busy (runContext .busy "run" "desk" .empty)
            (proberStart 1)).1 =
          state.conclude .empty
            ((proberStart 1).contextDocument .busy (runContext .busy "run" "desk" .empty)
              state)
            (.result .empty state.exit.next)) ∧
      ((prober .ofAll).run .busy "run" "desk" .empty 1).1 =
        .error (.invalidPath "$.total (no field 'total')") := by
  have alike : (prober ⟨[], []⟩).unguarded = (prober .ofAll).unguarded := rfl
  have single : AnswerLog.Flawless [.ok .empty] := by
    intro answer member
    exact ⟨.empty, List.mem_singleton.mp member⟩
  have asked : (prober ⟨[], []⟩).runAnswers .busy "run" "desk" .empty 0 =
      [.ok .empty] := by decide +kernel
  have visited : (prober ⟨[], []⟩).visitAnswers .busy
      (runContext .busy "run" "desk" .empty) (proberStart 0) = [.ok .empty] := by
    decide +kernel
  have retried : (prober .ofAll).visitAnswers .busy
      (runContext .busy "run" "desk" .empty) (proberStart 1) =
        [.error ⟨"Busy", ""⟩] ++ [.ok .empty] := by decide +kernel
  have failed : ((prober .ofAll).visit .busy (runContext .busy "run" "desk" .empty)
      (proberStart 1)).1 = .error (.invalidPath "$.total (no field 'total')") := by
    decide +kernel
  obtain ⟨run, visit, -, -⟩ := lists_act_on_answers alike .busy "run" "desk" .empty 0
  obtain ⟨-, -, answers, ends⟩ :=
    lists_act_on_answers alike.symm .busy "run" "desk" .empty 1
  have ended := ends [] (proberStart 1) _ _ (.here _) (by decide) (Prod.ext failed rfl)
  refine ⟨alike, asked, run (asked ▸ single), visited, ?_, retried, ?_, ?_⟩
  · exact visit _ _ (visited ▸ single)
  · exact (answers _ _ _ _ retried).2 .empty rfl
  · exact congrArg Prod.fst ended

end StatesLanguage
