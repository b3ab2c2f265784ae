import StatesLanguage.Execution.Step
import StatesLanguage.Proofs.DataFailure
import StatesLanguage.Proofs.Validity

/-!
# What one state can do

A step of a run leaves its state for a next one or for good, or it fails.
`State.LeavesFor` and `State.FailsWith` list the ways, one constructor for each
origin, and the two main theorems say that a step takes no other.
-/

namespace StatesLanguage

open Outcome

/-- How a state is left: for the next state, or for good. -/
inductive State.LeavesFor : State → Option String → Prop where
  /-- As it declares; Choice and Fail states are never left like this. -/
  | declared {state : State} (unbranched : state.kind ≠ .choice)
      (working : state.kind ≠ .fail) : LeavesFor state state.exit.next
  /-- For the next state of a rule at its top. -/
  | rule {frame : Frame} {branching : Choice} {rule : Rule} {next : String}
      (member : rule ∈ branching.rules) (named : rule.next = some next) :
      LeavesFor (.choice frame branching) (some next)
  /-- For its default. -/
  | default {frame : Frame} {branching : Choice} {next : String}
      (named : branching.default = some next) :
      LeavesFor (.choice frame branching) (some next)
  /-- Through a Catch entry of a task. -/
  | caught {frame : Frame} {work : Task} {catcher : Catcher}
      (member : catcher ∈ work.recovery.catchers) :
      LeavesFor (.task frame work) (some catcher.next)

/-- How a valid state fails that is entered under a name with an input and a context. -/
inductive State.FailsWith (name : String) (rawInput context : Document) :
    State → Failure → Prop where
  /-- A path or a call in the state cannot be evaluated. -/
  | data {state : State} {failure : Failure} (ofData : failure.IsOfData) :
      FailsWith name rawInput context state failure
  /-- No rule at the top of a Choice state is true, and there is no default. -/
  | unmatched {frame : Frame} {branching : Choice} {input : Document}
      (selected : frame.inputPath.select rawInput context = .ok input)
      (untrue : ∀ rule, rule ∈ branching.rules →
        Rule.evaluate input context rule = .ok false)
      (without : branching.default = none) :
      FailsWith name rawInput context (.choice frame branching) (.noChoiceMatched name)
  /-- The resolver of a task fails, or there is none. -/
  | task {frame : Frame} {work : Task} (taskError : TaskError) :
      FailsWith name rawInput context (.task frame work) (.taskFailure name taskError)
  /-- A Fail state fails as it declares. -/
  | failed {failing : Fail} :
      FailsWith name rawInput context (.fail failing)
        (.failed (failing.error.getD ErrorName.failed) (failing.cause.getD ""))
  /-- The literal timestamp of a Wait state cannot be read. -/
  | timestamp {frame : Frame} {delay : Wait} {text : String} (detail : String)
      (literal : delay.timestamp = some text) (unreadable : Timestamp.read? text = none) :
      FailsWith name rawInput context (.wait frame delay) (.invalidDefinition detail)

namespace Choice

theorem firstMatch?_some {input context : Document} {next : String} :
    ∀ {rules : List Rule}, firstMatch? input context rules = .ok (some next) →
      ∃ rule, rule ∈ rules ∧ rule.next = some next
  | [], matched => by simp [firstMatch?] at matched
  | rule :: rest, matched => by
      rw [firstMatch?, bind_eq_ok] at matched
      obtain ⟨holds, -, matched⟩ := matched
      split at matched
      · rename_i found
        cases matched
        exact ⟨rule, List.mem_cons_self, found⟩
      · obtain ⟨other, member, named⟩ := firstMatch?_some matched
        exact ⟨other, List.mem_cons_of_mem _ member, named⟩

theorem firstMatch?_none {input context : Document} :
    ∀ {rules : List Rule}, (∀ rule, rule ∈ rules → rule.next.isSome) →
      firstMatch? input context rules = .ok none →
        ∀ rule, rule ∈ rules → Rule.evaluate input context rule = .ok false
  | [], _, _ => by simp
  | rule :: rest, named, unmatched => by
      rw [firstMatch?, bind_eq_ok] at unmatched
      obtain ⟨holds, evaluated, unmatched⟩ := unmatched
      obtain ⟨next, next_eq⟩ := Option.isSome_iff_exists.mp (named rule List.mem_cons_self)
      rw [next_eq] at unmatched
      cases holds with
      | true => cases unmatched
      | false =>
          intro other member
          rcases List.mem_cons.mp member with rfl | later
          · exact evaluated
          · exact firstMatch?_none
              (fun inner inside => named inner (List.mem_cons_of_mem _ inside))
              unmatched other later

theorem firstMatch?_failsOnData (input context : Document) (rules : List Rule) :
    FailsOnData (firstMatch? input context rules) := by
  induction rules with
  | nil => exact .ok none
  | cons rule rest induction =>
      refine (FailsOnData.rule rule input context).bind fun holds _ => ?_
      split
      · exact .ok _
      · exact induction

theorem choose_eq_ok {name next : String} {branching : Choice}
    {input context : Document}
    (chosen : branching.choose name input context = .ok next) :
    (∃ rule, rule ∈ branching.rules ∧ rule.next = some next) ∨
      branching.default = some next := by
  rw [choose, bind_eq_ok] at chosen
  obtain ⟨found, matched, chosen⟩ := chosen
  split at chosen
  · cases chosen
    exact .inl (firstMatch?_some matched)
  · split at chosen
    · rename_i default
      cases chosen
      exact .inr default
    · cases chosen

theorem choose_eq_error {name : String} {branching : Choice}
    {input context : Document} {failure : Failure}
    (named : ∀ rule, rule ∈ branching.rules → rule.next.isSome)
    (failed : branching.choose name input context = .error failure) :
    failure.IsOfData ∨
      failure = .noChoiceMatched name ∧ branching.default = none ∧
        ∀ rule, rule ∈ branching.rules →
          Rule.evaluate input context rule = .ok false := by
  rw [choose, bind_eq_error] at failed
  rcases failed with early | ⟨found, matched, failed⟩
  · exact .inl (firstMatch?_failsOnData input context _ failure early)
  · split at failed
    · cases failed
    · split at failed
      · cases failed
      · rename_i without
        cases failed
        exact .inr ⟨rfl, without, firstMatch?_none named matched⟩

end Choice

/-- The seconds of a Wait state with a duration fail on data, or on its literal
timestamp. -/
theorem Wait.seconds?_eq_error {name : String} {delay : Wait}
    {input context : Document} {now : Instant} {failure : Failure}
    (declared : delay.durationCount = 1)
    (failed : delay.seconds? name input context now = .error failure) :
    failure.IsOfData ∨
      ∃ text detail, delay.timestamp = some text ∧ Timestamp.read? text = none ∧
        failure = .invalidDefinition detail := by
  obtain ⟨seconds, secondsPath, timestamp, timestampPath, exit⟩ := delay
  cases seconds with
  | some seconds => cases failed
  | none =>
  cases secondsPath with
  | some expression =>
      left
      refine FailsOnly.bind (FailsOnData.resolve input expression context) ?_ _ failed
      intro value _
      split
      · exact .ok _
      · exact .error trivial
  | none =>
  cases timestamp with
  | some text =>
      simp only [Wait.seconds?] at failed
      split at failed
      · cases failed
      · rename_i unreadable
        cases failed
        exact .inr ⟨text, _, rfl, unreadable, rfl⟩
  | none =>
  cases timestampPath with
  | some expression =>
      left
      refine FailsOnly.bind (FailsOnData.resolve input expression context) ?_ _ failed
      intro value _
      split
      · exact .ok _
      · exact .error trivial
  | none => simp [Wait.durationCount] at declared

/-- The next state that a decision names. -/
def Decision.next? : Decision → Option String
  | .result _ next => next
  | .diverted _ next => some next

variable {Memory : Type}

/-- A task comes to a result, is taken over by one of its Catch entries, or fails as its
resolver does. -/
theorem Task.perform_outcome (environment : Environment Memory) (name : String)
    (work : Task) (input rawInput : Document) (progress : Progress Memory) :
    (∃ value, (work.perform environment name input rawInput progress).1 =
        .ok (.result value work.exit.next)) ∨
      (∃ catcher taskError, catcher ∈ work.recovery.catchers ∧
        (work.perform environment name input rawInput progress).1 =
          (catcher.resultPath.splice rawInput (TaskError.toDocument taskError)).map
            (.diverted · catcher.next)) ∨
      ∃ taskError, (work.perform environment name input rawInput progress).1 =
        .error (.taskFailure name taskError) := by
  unfold Task.perform
  split
  · split
    · exact .inl ⟨_, rfl⟩
    · exact .inr (.inr ⟨_, rfl⟩)
  · dsimp only
    split
    · exact .inl ⟨_, rfl⟩
    · split
      · rename_i catcher found
        exact .inr (.inl ⟨catcher, _, List.mem_of_getElem? found, rfl⟩)
      · exact .inr (.inr ⟨_, rfl⟩)
    · exact .inr (.inr ⟨_, rfl⟩)

/-- A task goes on as it declares, or through one of its Catch entries. -/
theorem Task.perform_eq_ok {environment : Environment Memory} {name : String}
    {work : Task} {input rawInput : Document} {progress after : Progress Memory}
    {decision : Decision}
    (performed :
      work.perform environment name input rawInput progress = (.ok decision, after)) :
    decision.next? = work.exit.next ∨
      ∃ catcher, catcher ∈ work.recovery.catchers ∧
        decision.next? = some catcher.next := by
  have outcome := Task.perform_outcome environment name work input rawInput progress
  rw [performed] at outcome
  rcases outcome with ⟨value, same⟩ | ⟨catcher, taskError, member, same⟩ | ⟨taskError, same⟩
  · cases same
    exact .inl rfl
  · obtain ⟨output, -, rfl⟩ := map_eq_ok.mp same.symm
    exact .inr ⟨catcher, member, rfl⟩
  · cases same

/-- A task fails on data, or as its resolver does. -/
theorem Task.perform_eq_error {environment : Environment Memory} {name : String}
    {work : Task} {input rawInput : Document} {progress after : Progress Memory}
    {failure : Failure}
    (performed :
      work.perform environment name input rawInput progress = (.error failure, after)) :
    failure.IsOfData ∨ ∃ taskError, failure = .taskFailure name taskError := by
  have outcome := Task.perform_outcome environment name work input rawInput progress
  rw [performed] at outcome
  rcases outcome with ⟨value, same⟩ | ⟨catcher, taskError, -, same⟩ | ⟨taskError, same⟩
  · cases same
  · exact .inl ((FailsOnData.splice _ rawInput _).map _ failure same.symm)
  · cases same
    exact .inr ⟨taskError, rfl⟩

namespace State

/-- The work of a state leads out of it in one of the ways listed. -/
theorem perform_leavesFor {environment : Environment Memory} {name : String}
    {state : State} {input rawInput context : Document}
    {progress after : Progress Memory} {decision : Decision}
    (performed :
      state.perform environment name input rawInput context progress =
        (.ok decision, after)) :
    state.LeavesFor decision.next? := by
  cases state with
  | task frame work =>
      rcases Task.perform_eq_ok performed with declared | ⟨catcher, member, named⟩
      · rw [declared]
        exact @LeavesFor.declared (.task frame work) nofun nofun
      · rw [named]
        exact .caught member
  | pass frame given =>
      cases performed
      exact @LeavesFor.declared (.pass frame given) nofun nofun
  | choice frame branching =>
      obtain ⟨chosen, -⟩ := Prod.mk.inj performed
      obtain ⟨next, chosen, same⟩ := map_eq_ok.mp chosen
      rw [← same]
      rcases Choice.choose_eq_ok chosen with ⟨rule, member, named⟩ | named
      · exact .rule member named
      · exact .default named
  | wait frame delay =>
      simp only [State.perform] at performed
      split at performed
      · cases performed
      · cases performed
        exact @LeavesFor.declared (.wait frame delay) nofun nofun
  | succeed frame =>
      cases performed
      exact @LeavesFor.declared (.succeed frame) nofun nofun
  | fail failing => cases performed
  | map frame items =>
      cases performed
      exact @LeavesFor.declared (.map frame items) nofun nofun
  | parallel frame branches payload recovery exit =>
      cases performed
      exact @LeavesFor.declared (.parallel frame branches payload recovery exit)
        nofun nofun

theorem effectiveInput_failsOnData (state : State) (rawInput context : Document) :
    FailsOnData (state.effectiveInput rawInput context) := by
  refine (FailsOnData.select _ rawInput context).bind fun selected _ => ?_
  split
  · exact .ok _
  · exact FailsOnData.template _ selected context

/-- The effective input of a Choice state is what its path selects. -/
theorem effectiveInput_choice {frame : Frame} {branching : Choice}
    {rawInput context input : Document}
    (effective :
      (State.choice frame branching).effectiveInput rawInput context = .ok input) :
    frame.inputPath.select rawInput context = .ok input := by
  obtain ⟨selected, found, same⟩ := bind_eq_ok.mp effective
  cases same
  exact found

/-- The work of a valid state fails in one of the ways listed. -/
theorem perform_failsWith {defined : Defined} {environment : Environment Memory}
    {name : String} {state : State} {input rawInput context : Document}
    {progress after : Progress Memory} {failure : Failure}
    (valid : state.validate defined name = .ok ())
    (effective : state.effectiveInput rawInput context = .ok input)
    (performed :
      state.perform environment name input rawInput context progress =
        (.error failure, after)) :
    state.FailsWith name rawInput context failure := by
  cases state with
  | task frame work =>
      rcases Task.perform_eq_error performed with ofData | ⟨taskError, rfl⟩
      · exact .data ofData
      · exact .task taskError
  | pass frame given => cases performed
  | choice frame branching =>
      obtain ⟨failed, -⟩ := Prod.mk.inj performed
      have chooses : branching.choose name input context = .error failure := by
        cases chosen : branching.choose name input context with
        | error other => simpa [chosen, Except.map] using failed
        | ok next => simp [chosen, Except.map] at failed
      have named : ∀ rule, rule ∈ branching.rules → rule.next.isSome := by
        intro rule member
        rw [State.validate, Choice.validate_eq_ok] at valid
        obtain ⟨⟨target, named, -⟩, -⟩ := Rule.validate_eq_ok.mp (valid.2.2.1 rule member)
        simp [named]
      rcases Choice.choose_eq_error named chooses with ofData | ⟨rfl, without, untrue⟩
      · exact .data ofData
      · exact .unmatched (effectiveInput_choice effective) untrue without
  | wait frame delay =>
      have declared : delay.durationCount = 1 := by
        rw [State.validate, seq_eq_ok, Wait.validate_eq_ok] at valid
        exact valid.2
      simp only [State.perform] at performed
      split at performed
      · rename_i other failed
        cases performed
        rcases Wait.seconds?_eq_error declared failed with
          ofData | ⟨text, detail, literal, unreadable, rfl⟩
        · exact .data ofData
        · exact .timestamp detail literal unreadable
      · cases performed
  | succeed frame => cases performed
  | fail failing =>
      cases performed
      exact .failed
  | map frame items => cases performed
  | parallel frame branches payload recovery exit => cases performed

theorem conclude_failsOnData (state : State) (rawInput context : Document)
    (decision : Decision) : FailsOnData (state.conclude rawInput context decision) := by
  cases decision with
  | diverted output next => exact .ok _
  | result value next =>
      rw [conclude]
      split
      · exact (FailsOnData.splice _ rawInput _).bind fun placed _ =>
          (FailsOnData.select _ placed context).bind fun output _ => .ok _
      · exact (FailsOnData.template _ value context).bind fun shaped _ =>
          (FailsOnData.splice _ rawInput shaped).bind fun placed _ =>
            (FailsOnData.select _ placed context).bind fun output _ => .ok _

/-- A result is shaped, placed in the raw input, and selected from. -/
theorem conclude_result {state : State} {rawInput context value output : Document}
    {next out : Option String}
    (concluded :
      state.conclude rawInput context (.result value next) = .ok (output, out)) :
    out = next ∧
      ∃ shaped placed, state.payload.resultPath.splice rawInput shaped = .ok placed ∧
        state.frame.outputPath.select placed context = .ok output := by
  rw [conclude] at concluded
  have placing : ∃ shaped, (do
      let placed ← state.payload.resultPath.splice rawInput shaped
      let output ← state.frame.outputPath.select placed context
      return (output, next)) = Except.ok (output, out) := by
    split at concluded
    · exact ⟨value, concluded⟩
    · obtain ⟨shaped, -, concluded⟩ := bind_eq_ok.mp concluded
      exact ⟨shaped, concluded⟩
  obtain ⟨shaped, placing⟩ := placing
  obtain ⟨placed, spliced, selecting⟩ := bind_eq_ok.mp placing
  obtain ⟨selected, found, same⟩ := bind_eq_ok.mp selecting
  cases same
  exact ⟨rfl, shaped, placed, spliced, found⟩

/-- Shaping and placing a result does not change where a state goes. -/
theorem conclude_next {state : State} {rawInput context output : Document}
    {decision : Decision} {next : Option String}
    (concluded : state.conclude rawInput context decision = .ok (output, next)) :
    next = decision.next? := by
  cases decision with
  | diverted output next =>
      cases concluded
      rfl
  | result value next => exact (conclude_result concluded).1

/-- A step leaves its state in one of the ways listed. -/
theorem step_leavesFor {environment : Environment Memory} {name : String}
    {state : State} {rawInput context output : Document}
    {progress after : Progress Memory} {next : Option String}
    (stepped :
      state.step environment name rawInput context progress = (.ok (output, next), after)) :
    state.LeavesFor next := by
  unfold step at stepped
  split at stepped
  · cases stepped
  · rename_i input effective
    dsimp only at stepped
    obtain ⟨concluded, -⟩ := Prod.mk.inj stepped
    obtain ⟨decision, performed, concluded⟩ := bind_eq_ok.mp concluded
    rw [conclude_next concluded]
    exact perform_leavesFor (Prod.ext performed rfl)

/-- A step of a valid state fails in one of the ways listed. -/
theorem step_failsWith {defined : Defined} {environment : Environment Memory}
    {name : String} {state : State} {rawInput context : Document}
    {progress after : Progress Memory} {failure : Failure}
    (valid : state.validate defined name = .ok ())
    (stepped :
      state.step environment name rawInput context progress = (.error failure, after)) :
    state.FailsWith name rawInput context failure := by
  unfold step at stepped
  split at stepped
  · rename_i other failed
    cases stepped
    exact .data (effectiveInput_failsOnData state rawInput context failure failed)
  · rename_i input effective
    dsimp only at stepped
    obtain ⟨concluded, -⟩ := Prod.mk.inj stepped
    rcases bind_eq_error.mp concluded with failed | ⟨decision, -, failed⟩
    · exact perform_failsWith valid effective (Prod.ext failed rfl)
    · exact .data (conclude_failsOnData state rawInput context decision failure failed)

/-- A valid state is left for defined states only. -/
theorem LeavesFor.defined {defined : Defined} {name next : String} {state : State}
    (leaves : state.LeavesFor (some next)) (valid : state.validate defined name = .ok ()) :
    defined next = true := by
  generalize target_eq : some next = target at leaves
  cases leaves with
  | declared unbranched working =>
      rcases validate_exit valid with checked | ⟨bare, -⟩
      · rcases Exit.validate_eq_ok.mp checked with ⟨target, goes, known⟩ | stays
        · rw [goes] at target_eq
          cases target_eq
          exact known
        · simp [stays] at target_eq
      · simp [bare] at target_eq
  | @rule frame branching rule next member named =>
      cases target_eq
      rw [State.validate, Choice.validate_eq_ok] at valid
      obtain ⟨⟨target, goes, known⟩, -⟩ := Rule.validate_eq_ok.mp (valid.2.2.1 rule member)
      rw [named] at goes
      cases goes
      exact known
  | default named =>
      cases target_eq
      rw [State.validate, Choice.validate_eq_ok] at valid
      exact valid.2.2.2 _ named
  | caught member =>
      cases target_eq
      exact validate_taskCatchers valid _ member

/-- A valid state that is left for good is a Succeed state or declares the end. -/
theorem LeavesFor.ends {defined : Defined} {name : String} {state : State}
    (leaves : state.LeavesFor none) (valid : state.validate defined name = .ok ()) :
    state.kind = .succeed ∨ state.exit.isEnd = true := by
  generalize target_eq : none = target at leaves
  cases leaves with
  | declared unbranched working =>
      rcases validate_exit valid with checked | ⟨-, branches | succeeds | fails⟩
      · rcases Exit.validate_eq_ok.mp checked with ⟨target, goes, -⟩ | stays
        · rw [goes] at target_eq
          cases target_eq
        · exact .inr (by rw [stays])
      · exact (unbranched branches).elim
      · exact .inl succeeds
      · exact (working fails).elim
  | rule member named => cases target_eq
  | default named => cases target_eq
  | caught member => cases target_eq

/-- A valid state that is left for another one does not end its run, unless it is a task
that is left through one of its Catch entries. -/
theorem LeavesFor.continues {defined : Defined} {name next : String} {state : State}
    (leaves : state.LeavesFor (some next)) (valid : state.validate defined name = .ok ()) :
    state.kind ≠ .succeed ∧
      (state.exit.isEnd = true →
        ∃ frame work catcher, state = .task frame work ∧
          catcher ∈ work.recovery.catchers ∧ catcher.next = next) := by
  generalize target_eq : some next = target at leaves
  cases leaves with
  | declared unbranched working =>
      rcases validate_exit valid with checked | ⟨bare, -⟩
      · rcases Exit.validate_eq_ok.mp checked with ⟨target, goes, -⟩ | stays
        · refine ⟨?_, fun ends => ?_⟩
          · intro succeeds
            cases state <;> simp [kind, exit] at succeeds goes
          · simp [goes] at ends
        · simp [stays] at target_eq
      · simp [bare] at target_eq
  | rule member named =>
      rw [State.validate, Choice.validate_eq_ok] at valid
      exact ⟨by simp [kind], fun ends => by simp [exit, valid.1] at ends⟩
  | default named =>
      rw [State.validate, Choice.validate_eq_ok] at valid
      exact ⟨by simp [kind], fun ends => by simp [exit, valid.1] at ends⟩
  | @caught frame work catcher member =>
      cases target_eq
      exact ⟨by simp [kind], fun _ => ⟨frame, work, catcher, rfl, member, rfl⟩⟩

/-- No Fail state is ever left. -/
theorem LeavesFor.kind_ne_fail {state : State} {next : Option String}
    (leaves : state.LeavesFor next) : state.kind ≠ .fail := by
  cases leaves with
  | declared unbranched working => exact working
  | rule member named => nofun
  | default named => nofun
  | caught member => nofun

end State

end StatesLanguage
