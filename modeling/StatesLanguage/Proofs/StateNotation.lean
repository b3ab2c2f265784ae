import StatesLanguage.Proofs.RuleReading

/-!
# States read back

A state is written as an object.  What is left out there is what the reader of the state
takes for absent, and everything else stands under its name once, so a state that was read
is read again from that object if its branches are.
-/

namespace StatesLanguage

open RecordReader

section Written

variable {α : Type} (name other : String)

@[simp] theorem get?_ofList_optionalMember (write : α → Document) (value : Option α) :
    Members.get? name (Members.ofList (optionalMember other write value)) =
      if other = name then value.map write else none := by
  cases value with
  | none => simp [optionalMember]
  | some value => simp [optionalMember]

/-- What is written for a path attribute. -/
def PathAttribute.written : PathAttribute → Option Document
  | .absent => none
  | .null => some .null
  | .path expression => some (.string expression)

@[simp] theorem get?_ofList_toMember (path : PathAttribute) :
    Members.get? name (Members.ofList (path.toMember other)) =
      if other = name then path.written else none := by
  cases path with
  | absent => simp [PathAttribute.toMember, PathAttribute.written]
  | null => simp [PathAttribute.toMember, PathAttribute.written]
  | path expression => simp [PathAttribute.toMember, PathAttribute.written]

/-- What is written for a list. -/
def writtenList (write : α → Document) : List α → Option Document
  | [] => none
  | items => some (.array (items.map write))

@[simp] theorem get?_ofList_listMember (write : α → Document) (items : List α) :
    Members.get? name (Members.ofList (listMember other write items)) =
      if other = name then writtenList write items else none := by
  cases items with
  | nil => simp [listMember, writtenList]
  | cons item rest => simp [listMember, writtenList]

@[simp] theorem get?_ofList_end (isEnd : Bool) :
    Members.get? name (Members.ofList (if isEnd then [("End", Document.bool true)] else [])) =
      if "End" = name then (if isEnd then some (.bool true) else none) else none := by
  cases isEnd with
  | false => simp
  | true => simp

@[simp] theorem get?_ofList_frame (frame : Frame) :
    Members.get? name (Members.ofList frame.toMembers) =
      (if "OutputPath" = name then frame.outputPath.written else none).or
        ((if "InputPath" = name then frame.inputPath.written else none).or
          (if "Comment" = name then frame.comment.map .string else none)) := by
  simp [Frame.toMembers, Option.or_assoc]

@[simp] theorem get?_ofList_exit (exit : Exit) :
    Members.get? name (Members.ofList exit.toMembers) =
      (if "End" = name then (if exit.isEnd then some (.bool true) else none) else none).or
        (if "Next" = name then exit.next.map .string else none) := by
  simp [Exit.toMembers]

@[simp] theorem get?_ofList_payload (payload : Payload) :
    Members.get? name (Members.ofList payload.toMembers) =
      (if "ResultPath" = name then payload.resultPath.written else none).or
        ((if "ResultSelector" = name then payload.resultSelector else none).or
          (if "Parameters" = name then payload.parameters else none)) := by
  simp [Payload.toMembers, Option.or_assoc]

@[simp] theorem get?_ofList_recovery (recovery : Recovery) :
    Members.get? name (Members.ofList recovery.toMembers) =
      (if "Catch" = name then writtenList Catcher.toDocument recovery.catchers else none).or
        (if "Retry" = name then writtenList Retrier.toDocument recovery.retriers else none) := by
  simp [Recovery.toMembers]

end Written

section Members

variable {record target : Record} {name : String}

theorem optionalText_recovers {value : Option String}
    (read : (optional name Shape.text).assemble record = .ok value)
    (written : Members.get? name target.members = value.map .string) :
    (optional name Shape.text).assemble target = .ok value :=
  optional_recovers Shape.text_recovers (fun _ _ _ _ => Document.noConfusion) read written

theorem optionalNat_recovers {limit : Nat} {value : Option Nat}
    (read : (optional name (Shape.natBelow limit)).assemble record = .ok value)
    (written : Members.get? name target.members = value.map Document.ofNat) :
    (optional name (Shape.natBelow limit)).assemble target = .ok value :=
  optional_recovers (Shape.natBelow_recovers limit) (fun _ _ _ _ => Document.noConfusion)
    read written

theorem optionalReal_recovers {value : Option Binary64}
    (read : (optional name Shape.real).assemble record = .ok value)
    (written : Members.get? name target.members = value.map realDocument) :
    (optional name Shape.real).assemble target = .ok value :=
  optional_recovers Shape.real_recovers (fun _ _ _ _ => Document.noConfusion) read written

theorem optionalDocument_recovers {value : Option Document}
    (read : (optional name Shape.document).assemble record = .ok value)
    (written : Members.get? name target.members = value.map id) :
    (optional name Shape.document).assemble target = .ok value := by
  refine optional_recovers Shape.document_recovers ?_ read written
  intro document value differs parsed
  cases parsed
  exact differs

theorem pathMember_recovers {value : PathAttribute}
    (read : (pathMember name).assemble record = .ok value)
    (written : Members.get? name target.members = value.written) :
    (pathMember name).assemble target = .ok value := by
  refine withDefault_recovers rfl ?_ read written
  intro document value parsed
  cases value with
  | absent => rfl
  | null => rfl
  | path expression => rfl

theorem listMember_recovers {α : Type} {shape : Shape α} {write : α → Document}
    (recovers : shape.Recovers write) {values : List α}
    (read : (withDefault name (Shape.list shape) []).assemble record = .ok values)
    (written : Members.get? name target.members = writtenList write values) :
    (withDefault name (Shape.list shape) []).assemble target = .ok values := by
  refine withDefault_recovers rfl ?_ read written
  intro document values parsed
  cases values with
  | nil => rfl
  | cons value rest => exact recovers.list document _ parsed

theorem endMember_recovers {isEnd : Bool}
    (read : endMember.assemble record = .ok isEnd)
    (written : Members.get? "End" target.members =
      if isEnd then some (.bool true) else none) :
    endMember.assemble target = .ok isEnd := by
  refine @withDefault_recovers _ record target "End" Shape.bool false
    (fun isEnd => if isEnd then some (.bool true) else none) rfl ?_ isEnd read written
  intro document value parsed
  cases value with
  | false => rfl
  | true => rfl

end Members

instance (name : String) : Lawful (pathMember name) :=
  inferInstanceAs (Lawful (withDefault name Shape.pathAttribute .absent))

instance : Lawful retryMember :=
  inferInstanceAs (Lawful (withDefault "Retry" (Shape.list Retrier.reader.read) []))

instance : Lawful catchMember :=
  inferInstanceAs (Lawful (withDefault "Catch" (Shape.list Catcher.reader.read) []))

instance : Lawful endMember :=
  inferInstanceAs (Lawful (withDefault "End" Shape.bool false))

instance : Lawful Retrier.reader := by
  unfold Retrier.reader
  infer_instance

instance : Lawful Catcher.reader := by
  unfold Catcher.reader
  infer_instance

instance (branches : Except ShapeFault (List Machine)) (kind : StateKind) :
    Lawful (State.reader branches kind) := by
  cases kind <;>
    simp only [State.reader, State.taskReader, State.passReader, State.choiceReader,
      State.waitReader, State.succeedReader, State.failReader, State.mapReader,
      State.parallelReader] <;>
    infer_instance

instance (states : Except ShapeFault (List (String × State))) :
    Lawful (Machine.reader states) := by
  unfold Machine.reader
  infer_instance

theorem Shape.rule_recovers : rule.Recovers Rule.toDocument := by
  intro document value parsed
  unfold rule at parsed
  split at parsed
  · rename_i same found
    cases parsed
    rw [rule, (Rule.expressible_of_read _ document found).read_toDocument]
  · cases parsed

theorem Retrier.reader_recovers : Shape.Recovers reader.read toDocument := by
  intro document retrier parsed
  obtain ⟨record, _, assembled⟩ := read_eq_ok parsed
  have found := assemble_eq_ok_iff.mp assembled
  simp only [reader, exists_assemble_seq, exists_assemble_map] at found
  obtain ⟨errors, errors_read, interval, interval_read, rate, rate_read, attempts,
    attempts_read, bound, bound_read, rfl⟩ := found
  apply read_ofMembers
  apply assemble_eq_ok_iff.mpr
  simp only [reader, exists_assemble_seq, exists_assemble_map]
  refine ⟨_, required_recovers Shape.text_recovers.list errors_read ?_,
    _, optionalReal_recovers interval_read ?_, _, optionalReal_recovers rate_read ?_,
    _, optionalNat_recovers attempts_read ?_, _, optionalReal_recovers bound_read ?_, rfl⟩
  all_goals simp [textsDocument]

theorem Catcher.reader_recovers : Shape.Recovers reader.read toDocument := by
  intro document catcher parsed
  obtain ⟨record, _, assembled⟩ := read_eq_ok parsed
  have found := assemble_eq_ok_iff.mp assembled
  simp only [reader, exists_assemble_seq, exists_assemble_map] at found
  obtain ⟨errors, errors_read, path, path_read, next, next_read, rfl⟩ := found
  apply read_ofMembers
  apply assemble_eq_ok_iff.mpr
  simp only [reader, exists_assemble_seq, exists_assemble_map]
  refine ⟨_, required_recovers Shape.text_recovers.list errors_read ?_,
    _, pathMember_recovers path_read ?_,
    _, required_recovers Shape.text_recovers next_read ?_, rfl⟩
  all_goals simp [textsDocument]

namespace State

theorem readShape_ofMembers {inBranch : Bool} {kind : StateKind}
    {members : List (String × Document)} {state : State}
    (typed : Members.get? "Type" (Members.ofList members) = some (.string kind.name))
    (assembled : (State.reader (branchesMember (Members.ofList members)) kind).assemble
      ⟨Members.ofList members, false, false⟩ = .ok state) :
    readShape inBranch (Document.ofMembers members) = .ok state := by
  have named : StateKind.read inBranch (.string kind.name) = .ok kind :=
    StateKind.read_string_eq_ok.mpr rfl
  have parsed := read_ofMembers assembled
  rw [Document.ofMembers] at parsed ⊢
  rw [readShape, typed]
  simp [named, parsed, bind, Except.bind]

variable {record : Record} {state : State}

theorem taskReader_recovers (inBranch : Bool)
    (assembled : taskReader.assemble record = .ok state) :
    readShape inBranch state.toDocument = .ok state := by
  have found := assemble_eq_ok_iff.mp assembled
  simp only [taskReader, exists_assemble_seq, exists_assemble_map] at found
  obtain ⟨resource, resource_read, comment, comment_read, input, input_read, output,
    output_read, parameters, parameters_read, selector, selector_read, result, result_read,
    retriers, retriers_read, catchers, catchers_read, timeout, timeout_read, timeoutPath,
    timeoutPath_read, heartbeat, heartbeat_read, heartbeatPath, heartbeatPath_read, next,
    next_read, isEnd, isEnd_read, rfl⟩ := found
  refine @readShape_ofMembers inBranch .task _ _ ?_ ?_
  · simp [StateKind.toMember]
  · apply assemble_eq_ok_iff.mpr
    simp only [State.reader, taskReader, exists_assemble_seq, exists_assemble_map]
    refine ⟨_, required_recovers Shape.text_recovers resource_read ?_,
      _, optionalText_recovers comment_read ?_, _, pathMember_recovers input_read ?_,
      _, pathMember_recovers output_read ?_,
      _, optionalDocument_recovers parameters_read ?_,
      _, optionalDocument_recovers selector_read ?_, _, pathMember_recovers result_read ?_,
      _, listMember_recovers Retrier.reader_recovers retriers_read ?_,
      _, listMember_recovers Catcher.reader_recovers catchers_read ?_,
      _, optionalNat_recovers timeout_read ?_, _, optionalText_recovers timeoutPath_read ?_,
      _, optionalNat_recovers heartbeat_read ?_,
      _, optionalText_recovers heartbeatPath_read ?_, _, optionalText_recovers next_read ?_,
      _, endMember_recovers isEnd_read ?_, rfl⟩
    all_goals simp [StateKind.toMember]

theorem passReader_recovers (inBranch : Bool)
    (assembled : passReader.assemble record = .ok state) :
    readShape inBranch state.toDocument = .ok state := by
  have found := assemble_eq_ok_iff.mp assembled
  simp only [passReader, exists_assemble_seq, exists_assemble_map] at found
  obtain ⟨comment, comment_read, input, input_read, output, output_read, parameters,
    parameters_read, fixed, fixed_read, result, result_read, next, next_read, isEnd,
    isEnd_read, rfl⟩ := found
  refine @readShape_ofMembers inBranch .pass _ _ ?_ ?_
  · simp [StateKind.toMember]
  · apply assemble_eq_ok_iff.mpr
    simp only [State.reader, passReader, exists_assemble_seq, exists_assemble_map]
    refine ⟨_, optionalText_recovers comment_read ?_, _, pathMember_recovers input_read ?_,
      _, pathMember_recovers output_read ?_,
      _, optionalDocument_recovers parameters_read ?_,
      _, optionalDocument_recovers fixed_read ?_, _, pathMember_recovers result_read ?_,
      _, optionalText_recovers next_read ?_, _, endMember_recovers isEnd_read ?_, rfl⟩
    all_goals simp [StateKind.toMember]

theorem choiceReader_recovers (inBranch : Bool)
    (assembled : choiceReader.assemble record = .ok state) :
    readShape inBranch state.toDocument = .ok state := by
  have found := assemble_eq_ok_iff.mp assembled
  simp only [choiceReader, exists_assemble_seq, exists_assemble_map] at found
  obtain ⟨rules, rules_read, default, default_read, comment, comment_read, input,
    input_read, output, output_read, next, next_read, isEnd, isEnd_read, rfl⟩ := found
  refine @readShape_ofMembers inBranch .choice _ _ ?_ ?_
  · simp [StateKind.toMember]
  · apply assemble_eq_ok_iff.mpr
    simp only [State.reader, choiceReader, exists_assemble_seq, exists_assemble_map]
    refine ⟨_, required_recovers Shape.rule_recovers.list rules_read ?_,
      _, optionalText_recovers default_read ?_, _, optionalText_recovers comment_read ?_,
      _, pathMember_recovers input_read ?_, _, pathMember_recovers output_read ?_,
      _, optionalText_recovers next_read ?_, _, endMember_recovers isEnd_read ?_, rfl⟩
    all_goals simp [StateKind.toMember]

theorem waitReader_recovers (inBranch : Bool)
    (assembled : waitReader.assemble record = .ok state) :
    readShape inBranch state.toDocument = .ok state := by
  have found := assemble_eq_ok_iff.mp assembled
  simp only [waitReader, exists_assemble_seq, exists_assemble_map] at found
  obtain ⟨seconds, seconds_read, secondsPath, secondsPath_read, timestamp, timestamp_read,
    timestampPath, timestampPath_read, comment, comment_read, input, input_read, output,
    output_read, next, next_read, isEnd, isEnd_read, rfl⟩ := found
  refine @readShape_ofMembers inBranch .wait _ _ ?_ ?_
  · simp [StateKind.toMember]
  · apply assemble_eq_ok_iff.mpr
    simp only [State.reader, waitReader, exists_assemble_seq, exists_assemble_map]
    refine ⟨_, optionalNat_recovers seconds_read ?_,
      _, optionalText_recovers secondsPath_read ?_,
      _, optionalText_recovers timestamp_read ?_,
      _, optionalText_recovers timestampPath_read ?_,
      _, optionalText_recovers comment_read ?_, _, pathMember_recovers input_read ?_,
      _, pathMember_recovers output_read ?_, _, optionalText_recovers next_read ?_,
      _, endMember_recovers isEnd_read ?_, rfl⟩
    all_goals simp [StateKind.toMember]

theorem succeedReader_recovers (inBranch : Bool)
    (assembled : succeedReader.assemble record = .ok state) :
    readShape inBranch state.toDocument = .ok state := by
  have found := assemble_eq_ok_iff.mp assembled
  simp only [succeedReader, exists_assemble_seq, exists_assemble_map] at found
  obtain ⟨comment, comment_read, input, input_read, output, output_read, rfl⟩ := found
  refine @readShape_ofMembers inBranch .succeed _ _ ?_ ?_
  · simp [StateKind.toMember]
  · apply assemble_eq_ok_iff.mpr
    simp only [State.reader, succeedReader, exists_assemble_seq, exists_assemble_map]
    refine ⟨_, optionalText_recovers comment_read ?_, _, pathMember_recovers input_read ?_,
      _, pathMember_recovers output_read ?_, rfl⟩
    all_goals simp [StateKind.toMember]

theorem failReader_recovers (inBranch : Bool)
    (assembled : failReader.assemble record = .ok state) :
    readShape inBranch state.toDocument = .ok state := by
  have found := assemble_eq_ok_iff.mp assembled
  simp only [failReader, exists_assemble_seq, exists_assemble_map] at found
  obtain ⟨error, error_read, cause, cause_read, comment, comment_read, rfl⟩ := found
  refine @readShape_ofMembers inBranch .fail _ _ ?_ ?_
  · simp [StateKind.toMember]
  · apply assemble_eq_ok_iff.mpr
    simp only [State.reader, failReader, exists_assemble_seq, exists_assemble_map]
    refine ⟨_, optionalText_recovers error_read ?_, _, optionalText_recovers cause_read ?_,
      _, optionalText_recovers comment_read ?_, rfl⟩
    all_goals simp [StateKind.toMember]

theorem mapReader_recovers (inBranch : Bool)
    (assembled : mapReader.assemble record = .ok state) :
    readShape inBranch state.toDocument = .ok state := by
  have found := assemble_eq_ok_iff.mp assembled
  simp only [mapReader, exists_assemble_seq, exists_assemble_map] at found
  obtain ⟨items, items_read, iterator, iterator_read, processor, processor_read,
    concurrency, concurrency_read, comment, comment_read, input, input_read, output,
    output_read, parameters, parameters_read, selector, selector_read, result, result_read,
    retriers, retriers_read, catchers, catchers_read, next, next_read, isEnd, isEnd_read,
    rfl⟩ := found
  refine @readShape_ofMembers inBranch .map _ _ ?_ ?_
  · simp [StateKind.toMember]
  · apply assemble_eq_ok_iff.mpr
    simp only [State.reader, mapReader, exists_assemble_seq, exists_assemble_map]
    refine ⟨_, optionalText_recovers items_read ?_,
      _, optionalDocument_recovers iterator_read ?_,
      _, optionalDocument_recovers processor_read ?_,
      _, optionalNat_recovers concurrency_read ?_, _, optionalText_recovers comment_read ?_,
      _, pathMember_recovers input_read ?_, _, pathMember_recovers output_read ?_,
      _, optionalDocument_recovers parameters_read ?_,
      _, optionalDocument_recovers selector_read ?_, _, pathMember_recovers result_read ?_,
      _, listMember_recovers Retrier.reader_recovers retriers_read ?_,
      _, listMember_recovers Catcher.reader_recovers catchers_read ?_,
      _, optionalText_recovers next_read ?_, _, endMember_recovers isEnd_read ?_, rfl⟩
    all_goals simp [StateKind.toMember]

/-- A Parallel state is recovered if its branches are. -/
theorem parallelReader_recovers {branches : Except ShapeFault (List Machine)}
    (recovers : ∀ machines, branches = .ok machines →
      readMachines (machineDocuments machines) = .ok machines) (inBranch : Bool)
    (assembled : (parallelReader branches).assemble record = .ok state) :
    readShape inBranch state.toDocument = .ok state := by
  have found := assemble_eq_ok_iff.mp assembled
  simp only [parallelReader, exists_assemble_seq, exists_assemble_map] at found
  obtain ⟨machines, machines_read, comment, comment_read, input, input_read, output,
    output_read, parameters, parameters_read, selector, selector_read, result, result_read,
    retriers, retriers_read, catchers, catchers_read, next, next_read, isEnd, isEnd_read,
    rfl⟩ := found
  obtain ⟨_, _, machines_given⟩ := required_eq_ok.mp machines_read
  have recovered := recovers machines machines_given
  refine @readShape_ofMembers inBranch .parallel _ _ ?_ ?_
  · simp [StateKind.toMember]
  · apply assemble_eq_ok_iff.mpr
    simp only [State.reader, parallelReader, exists_assemble_seq, exists_assemble_map]
    refine ⟨machines, required_eq_ok.mpr ⟨.array (machineDocuments machines), ?_, ?_⟩,
      _, optionalText_recovers comment_read ?_,
      _, pathMember_recovers input_read ?_, _, pathMember_recovers output_read ?_,
      _, optionalDocument_recovers parameters_read ?_,
      _, optionalDocument_recovers selector_read ?_, _, pathMember_recovers result_read ?_,
      _, listMember_recovers Retrier.reader_recovers retriers_read ?_,
      _, listMember_recovers Catcher.reader_recovers catchers_read ?_,
      _, optionalText_recovers next_read ?_, _, endMember_recovers isEnd_read ?_, rfl⟩
    all_goals simp [StateKind.toMember, branchesMember_eq, readBranches, recovered]

/-- A state is recovered if its branches are. -/
theorem reader_recovers {branches : Except ShapeFault (List Machine)} {kind : StateKind}
    (recovers : ∀ machines, branches = .ok machines →
      readMachines (machineDocuments machines) = .ok machines) (inBranch : Bool)
    (assembled : (reader branches kind).assemble record = .ok state) :
    readShape inBranch state.toDocument = .ok state := by
  cases kind with
  | task => exact taskReader_recovers inBranch assembled
  | pass => exact passReader_recovers inBranch assembled
  | choice => exact choiceReader_recovers inBranch assembled
  | wait => exact waitReader_recovers inBranch assembled
  | succeed => exact succeedReader_recovers inBranch assembled
  | fail => exact failReader_recovers inBranch assembled
  | map => exact mapReader_recovers inBranch assembled
  | parallel => exact parallelReader_recovers recovers inBranch assembled

end State

end StatesLanguage
