import StatesLanguage.Proofs.Record
import StatesLanguage.Proofs.RuleCheck

/-!
# Rules that reading meets

The rules of a machine that was read are the rules at the places of `HoldsRule` in its
document, each as it is read by itself.  The walk ahead meets some of these, so a document
that can be read passes it.
-/

namespace StatesLanguage

open RecordReader Document

theorem statesMember_eq (inBranch : Bool) (members : List (String × Document)) :
    statesMember inBranch members =
      (Members.get? "States" members).elim (.ok []) (readStates inBranch) :=
  Members.eq_elim_get? (statesMember inBranch) (by rw [statesMember])
    (fun _ _ _ => by rw [statesMember]) members

theorem branchesMember_eq (members : List (String × Document)) :
    branchesMember members =
      (Members.get? "Branches" members).elim (.ok []) readBranches :=
  Members.eq_elim_get? branchesMember (by rw [branchesMember])
    (fun _ _ _ => by rw [branchesMember]) members

theorem readStates_eq_ok {inBranch : Bool} {document : Document}
    {named : List (String × State)} (parsed : readStates inBranch document = .ok named) :
    ∃ members, document = .object members ∧ readNamedStates inBranch members = .ok named := by
  cases document with
  | object members =>
      rw [readStates] at parsed
      exact ⟨members, rfl, parsed⟩
  | null => cases parsed
  | bool value => cases parsed
  | number value => cases parsed
  | string value => cases parsed
  | array items => cases parsed

theorem readBranches_eq_ok {document : Document} {machines : List Machine}
    (parsed : readBranches document = .ok machines) :
    ∃ items, document = .array items ∧ readMachines items = .ok machines := by
  cases document with
  | array items =>
      rw [readBranches] at parsed
      exact ⟨items, rfl, parsed⟩
  | null => cases parsed
  | bool value => cases parsed
  | number value => cases parsed
  | string value => cases parsed
  | object members => cases parsed

theorem readNamedStates_eq_ok {inBranch : Bool} {members : List (String × Document)}
    {named : List (String × State)}
    (parsed : readNamedStates inBranch members = .ok named) :
    List.Forall₂ (fun member entry => member.1 = entry.1 ∧
      State.readShape inBranch member.2 = .ok entry.2) members named := by
  induction members generalizing named with
  | nil =>
      cases parsed
      exact .nil
  | cons member rest induction =>
      obtain ⟨name, value⟩ := member
      rw [readNamedStates] at parsed
      obtain ⟨state, state_parsed, parsed⟩ := Outcome.bind_eq_ok.mp parsed
      obtain ⟨others, others_parsed, parsed⟩ := Outcome.bind_eq_ok.mp parsed
      cases parsed
      exact .cons ⟨rfl, state_parsed⟩ (induction others_parsed)

theorem readMachines_eq_ok {documents : List Document} {machines : List Machine}
    (parsed : readMachines documents = .ok machines) :
    List.Forall₂ (fun document machine => Machine.readShape true document = .ok machine)
      documents machines := by
  induction documents generalizing machines with
  | nil =>
      cases parsed
      exact .nil
  | cons document rest induction =>
      rw [readMachines] at parsed
      obtain ⟨machine, machine_parsed, parsed⟩ := Outcome.bind_eq_ok.mp parsed
      obtain ⟨others, others_parsed, parsed⟩ := Outcome.bind_eq_ok.mp parsed
      cases parsed
      exact .cons machine_parsed (induction others_parsed)

theorem readNamedStates_of_statesMember {inBranch : Bool} {members : List (String × Document)}
    {named : List (String × State)} (parsed : statesMember inBranch members = .ok named) :
    readNamedStates inBranch ((object members).membersUnder "States") = .ok named := by
  rw [statesMember_eq] at parsed
  rw [membersUnder, member?]
  cases found : Members.get? "States" members with
  | none =>
      rw [found] at parsed
      exact parsed
  | some value =>
      rw [found] at parsed
      obtain ⟨states, rfl, states_parsed⟩ := readStates_eq_ok parsed
      exact states_parsed

theorem readMachines_of_branchesMember {members : List (String × Document)}
    {machines : List Machine} (parsed : branchesMember members = .ok machines) :
    readMachines ((object members).itemsUnder "Branches") = .ok machines := by
  rw [branchesMember_eq] at parsed
  rw [itemsUnder, member?]
  cases found : Members.get? "Branches" members with
  | none =>
      rw [found] at parsed
      exact parsed
  | some value =>
      rw [found] at parsed
      obtain ⟨items, rfl, items_parsed⟩ := readBranches_eq_ok parsed
      exact items_parsed

theorem Machine.reader_states {states : Except ShapeFault (List (String × State))}
    {document : Document} {machine : Machine}
    (parsed : (reader states).read document = .ok machine) : states = .ok machine.states := by
  obtain ⟨record, _, assembled⟩ := read_eq_ok parsed
  have found := assemble_eq_ok_iff.mp assembled
  simp only [reader, exists_assemble_seq, exists_assemble_map] at found
  obtain ⟨startAt, _, named, named_read, comment, _, version, _, timeout, _, rfl⟩ := found
  obtain ⟨_, _, given⟩ := required_eq_ok.mp named_read
  exact given

/-- The states of a machine that was read are read from its document one by one. -/
theorem Machine.readShape_states {inBranch : Bool} {document : Document} {machine : Machine}
    (parsed : readShape inBranch document = .ok machine) :
    readNamedStates inBranch document.writtenStates = .ok machine.states := by
  cases document with
  | object members =>
      rw [readShape] at parsed
      exact readNamedStates_of_statesMember (reader_states parsed)
  | array items =>
      cases items with
      | nil => exact reader_states parsed
      | cons startAt items =>
          cases items with
          | nil => exact reader_states parsed
          | cons states rest =>
              rw [readShape] at parsed
              obtain ⟨members, rfl, members_parsed⟩ := readStates_eq_ok (reader_states parsed)
              exact members_parsed
  | null => exact reader_states parsed
  | bool value => exact reader_states parsed
  | number value => exact reader_states parsed
  | string value => exact reader_states parsed

theorem Shape.readItems_rule {documents : List Document} {rules : List Rule}
    (parsed : readItems rule documents = .ok rules) : Rule.readAll documents = .ok rules := by
  induction documents generalizing rules with
  | nil =>
      cases parsed
      rw [Rule.readAll]
  | cons document rest induction =>
      obtain ⟨first, first_parsed, parsed⟩ := Outcome.bind_eq_ok.mp parsed
      obtain ⟨others, others_parsed, parsed⟩ := Outcome.bind_eq_ok.mp parsed
      cases parsed
      have first_read : Rule.read document = .ok first := by
        unfold rule at first_parsed
        split at first_parsed
        · rename_i found
          cases first_parsed
          exact found
        · cases first_parsed
      rw [Rule.readAll, first_read, induction others_parsed]
      rfl

namespace State

variable {branches : Except ShapeFault (List Machine)} {kind : StateKind} {record : Record}
  {state : State} {frame : Frame}

theorem reader_kind (assembled : (reader branches kind).assemble record = .ok state) :
    state.kind = kind := by
  by_contra differs
  have found : ∃ value, (reader branches kind).assemble record = .ok value ∧ value.kind ≠ kind :=
    ⟨state, assembled, differs⟩
  cases kind <;>
    simp only [reader, taskReader, passReader, choiceReader, waitReader, succeedReader,
      failReader, mapReader, parallelReader, exists_assemble_seq, exists_assemble_map,
      State.kind, ne_eq, not_true_eq_false, and_false, exists_false] at found

theorem choiceReader_rules {choice : Choice}
    (assembled : choiceReader.assemble record = .ok (.choice frame choice)) :
    ∃ documents, Members.get? "Choices" record.members = some (.array documents) ∧
      Rule.readAll documents = .ok choice.rules := by
  have found := assemble_eq_ok_iff.mp assembled
  simp only [choiceReader, exists_assemble_seq, exists_assemble_map] at found
  obtain ⟨rules, rules_read, default, _, comment, _, input, _, output, _, next, _, isEnd, _,
    same⟩ := found
  cases same
  obtain ⟨item, item_found, parsed⟩ := required_eq_ok.mp rules_read
  unfold Shape.list at parsed
  split at parsed
  · exact ⟨_, item_found, Shape.readItems_rule parsed⟩
  · cases parsed

theorem parallelReader_branches {machines : List Machine} {payload : Payload}
    {recovery : Recovery} {exit : Exit}
    (assembled : (parallelReader branches).assemble record =
      .ok (.parallel frame machines payload recovery exit)) : branches = .ok machines := by
  have found := assemble_eq_ok_iff.mp assembled
  simp only [parallelReader, exists_assemble_seq, exists_assemble_map] at found
  obtain ⟨given, given_read, comment, _, input, _, output, _, parameters, _, selector, _,
    result, _, retriers, _, catchers, _, next, _, isEnd, _, same⟩ := found
  cases same
  obtain ⟨_, _, given_is⟩ := required_eq_ok.mp given_read
  exact given_is

/-- A state that was read is put together, by its kind, from what its document writes. -/
theorem readShape_eq_ok {inBranch : Bool} {document : Document}
    (parsed : readShape inBranch document = .ok state) :
    ∃ branches record,
      (∃ written, document.writtenKind = some written ∧
        StateKind.read inBranch written = .ok state.kind) ∧
      (reader branches state.kind).assemble record = .ok state ∧
      (∀ machines, branches = .ok machines →
        readMachines (document.writtenItems "Branches") = .ok machines) ∧
      (state.kind = .choice → ∀ items,
        Members.get? "Choices" record.members = some (.array items) →
          document.writtenItems "Choices" = items) := by
  cases document with
  | object members =>
      rw [readShape] at parsed
      split at parsed
      · cases parsed
      · rename_i written typed
        obtain ⟨kind, kind_read, parsed⟩ := Outcome.bind_eq_ok.mp parsed
        obtain ⟨record, opened, assembled⟩ := read_eq_ok parsed
        cases opened
        cases reader_kind assembled
        refine ⟨_, _, ⟨written, typed, kind_read⟩, assembled, ?_, ?_⟩
        · intro machines given
          exact readMachines_of_branchesMember given
        · intro _ items found
          simp [writtenItems, itemsUnder, member?, found, array?]
  | array items =>
      cases items with
      | nil => cases parsed
      | cons written items =>
          cases items with
          | nil =>
              rw [readShape] at parsed
              obtain ⟨kind, kind_read, parsed⟩ := Outcome.bind_eq_ok.mp parsed
              obtain ⟨record, opened, assembled⟩ := read_eq_ok parsed
              cases opened
              cases reader_kind assembled
              refine ⟨_, _, ⟨written, rfl, kind_read⟩, assembled, ?_, ?_⟩
              · intro machines none_given
                cases none_given
                rfl
              · intro _ items found
                rw [List.zip_nil_right] at found
                cases found
          | cons first rest =>
              rw [readShape] at parsed
              obtain ⟨kind, kind_read, parsed⟩ := Outcome.bind_eq_ok.mp parsed
              obtain ⟨record, opened, assembled⟩ := read_eq_ok parsed
              cases opened
              cases reader_kind assembled
              refine ⟨_, _, ⟨written, rfl, kind_read⟩, assembled, ?_, ?_⟩
              · intro machines given
                obtain ⟨items, rfl, items_parsed⟩ := readBranches_eq_ok given
                exact items_parsed
              · intro choice items found
                rw [choice] at found
                cases found
                rfl
  | null => cases parsed
  | bool value => cases parsed
  | number value => cases parsed
  | string value => cases parsed

theorem readShape_kind {inBranch : Bool} {document : Document}
    (parsed : readShape inBranch document = .ok state) :
    ∃ written, document.writtenKind = some written ∧
      StateKind.read inBranch written = .ok state.kind := by
  obtain ⟨_, _, written, _⟩ := readShape_eq_ok parsed
  exact written

theorem readShape_choice {inBranch : Bool} {document : Document} {choice : Choice}
    (parsed : readShape inBranch document = .ok (.choice frame choice)) :
    Rule.readAll (document.writtenItems "Choices") = .ok choice.rules := by
  obtain ⟨_, record, _, assembled, _, items_are⟩ := readShape_eq_ok parsed
  obtain ⟨items, found, rules_read⟩ := choiceReader_rules assembled
  rw [items_are rfl items found]
  exact rules_read

theorem readShape_parallel {inBranch : Bool} {document : Document} {machines : List Machine}
    {payload : Payload} {recovery : Recovery} {exit : Exit}
    (parsed : readShape inBranch document =
      .ok (.parallel frame machines payload recovery exit)) :
    readMachines (document.writtenItems "Branches") = .ok machines := by
  obtain ⟨_, _, _, assembled, branches_are, _⟩ := readShape_eq_ok parsed
  exact branches_are machines (parallelReader_branches assembled)

end State

/-- A rule of a Choice state of a machine or of a machine in it. -/
inductive Machine.HasRule (rule : Rule) : Machine → Prop where
  | own {machine : Machine} {name : String} {frame : Frame} {choice : Choice}
      (among : (name, .choice frame choice) ∈ machine.states) (listed : rule ∈ choice.rules) :
      HasRule rule machine
  | inside {machine branch : Machine} {name : String} {frame : Frame}
      {branches : List Machine} {payload : Payload} {recovery : Recovery} {exit : Exit}
      (among : (name, .parallel frame branches payload recovery exit) ∈ machine.states)
      (listed : branch ∈ branches) (held : HasRule rule branch) : HasRule rule machine

theorem Machine.exists_state_of_written {inBranch : Bool} {document state written : Document}
    {machine : Machine} {kind : StateKind} {name : String}
    (parsed : readShape inBranch document = .ok machine)
    (among : (name, state) ∈ document.writtenStates)
    (shown : state.writtenKind = some written)
    (kind_read : StateKind.read inBranch written = .ok kind) :
    ∃ value, (name, value) ∈ machine.states ∧ State.readShape inBranch state = .ok value ∧
      value.kind = kind := by
  have states := readNamedStates_eq_ok (readShape_states parsed)
  obtain ⟨⟨_, value⟩, present, rfl, value_read⟩ := exists_right_of_forall₂ states among
  refine ⟨value, present, value_read, ?_⟩
  obtain ⟨same, same_shown, same_read⟩ := State.readShape_kind value_read
  rw [shown] at same_shown
  cases same_shown
  rw [kind_read] at same_read
  cases same_read
  rfl

/-- Where a document was read as a machine, a rule in it was read as a rule of the machine. -/
theorem Document.HoldsRule.hasRule {rule document : Document} {inBranch : Bool}
    (held : HoldsRule rule inBranch document) :
    ∀ {machine}, Machine.readShape inBranch document = .ok machine →
      ∃ value, Rule.read rule = .ok value ∧ machine.HasRule value := by
  induction held with
  | own among written choice listed =>
      intro machine parsed
      obtain ⟨state, present, state_read, state_kind⟩ :=
        Machine.exists_state_of_written parsed among written choice
      cases state <;> cases state_kind
      rename_i frame choice
      have rules := Rule.readAll_eq_ok_iff.mp (State.readShape_choice state_read)
      obtain ⟨value, value_listed, value_read⟩ := exists_right_of_forall₂ rules listed
      exact ⟨value, value_read, .own present value_listed⟩
  | inside among written parallel listed held induction =>
      intro machine parsed
      obtain ⟨state, present, state_read, state_kind⟩ :=
        Machine.exists_state_of_written parsed among written parallel
      cases state <;> cases state_kind
      have branches := readMachines_eq_ok (State.readShape_parallel state_read)
      obtain ⟨branch, branch_listed, branch_read⟩ := exists_right_of_forall₂ branches listed
      obtain ⟨value, value_read, value_held⟩ := induction branch_read
      exact ⟨value, value_read, .inside present branch_listed value_held⟩

theorem Machine.HasRule.written {value : Rule} {machine : Machine}
    (held : machine.HasRule value) :
    ∀ {inBranch document}, readShape inBranch document = .ok machine →
      ∃ rule, HoldsRule rule inBranch document ∧ Rule.read rule = .ok value := by
  induction held with
  | own among listed =>
      intro inBranch document parsed
      have states := readNamedStates_eq_ok (readShape_states parsed)
      obtain ⟨⟨_, state⟩, present, rfl, state_read⟩ := exists_left_of_forall₂ states among
      obtain ⟨written, shown, kind_read⟩ := State.readShape_kind state_read
      have rules := Rule.readAll_eq_ok_iff.mp (State.readShape_choice state_read)
      obtain ⟨rule, rule_listed, rule_read⟩ := exists_left_of_forall₂ rules listed
      exact ⟨rule, .own present shown kind_read rule_listed, rule_read⟩
  | inside among listed held induction =>
      intro inBranch document parsed
      have states := readNamedStates_eq_ok (readShape_states parsed)
      obtain ⟨⟨_, state⟩, present, rfl, state_read⟩ := exists_left_of_forall₂ states among
      obtain ⟨written, shown, kind_read⟩ := State.readShape_kind state_read
      have branches := readMachines_eq_ok (State.readShape_parallel state_read)
      obtain ⟨branch, branch_listed, branch_read⟩ := exists_left_of_forall₂ branches listed
      obtain ⟨rule, rule_held, rule_read⟩ := induction branch_read
      exact ⟨rule, .inside present shown kind_read branch_listed rule_held, rule_read⟩

/-- The rules of a machine that was read are those of its document, each read by itself. -/
theorem Machine.hasRule_iff {inBranch : Bool} {document : Document} {machine : Machine}
    (parsed : readShape inBranch document = .ok machine) {value : Rule} :
    machine.HasRule value ↔
      ∃ rule, HoldsRule rule inBranch document ∧ Rule.read rule = .ok value := by
  constructor
  · intro held
    exact held.written parsed
  · rintro ⟨rule, held, rule_read⟩
    obtain ⟨same, same_read, same_held⟩ := held.hasRule parsed
    rw [rule_read] at same_read
    cases same_read
    exact same_held

/-- The rules of a document that is read as a machine can be read. -/
theorem checkMachineRules_of_readShape {inBranch : Bool} {document : Document}
    {machine : Machine} (parsed : Machine.readShape inBranch document = .ok machine) :
    checkMachineRules document = .ok () := by
  apply checkMachineRules_eq_ok_iff.mpr
  intro rule held
  obtain ⟨value, rule_read, _⟩ := (held.holdsRule inBranch).hasRule parsed
  exact ⟨value, rule_read⟩

end StatesLanguage
