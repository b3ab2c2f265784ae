import StatesLanguage.Proofs.StateNotation

/-!
# Machines read back

A machine that was read is read again from the document that writes it.  The induction
is on the document that was read first: its states, and their branches, are recovered one
by one.
-/

namespace StatesLanguage

open RecordReader

/-- A machine is recovered if its states are. -/
theorem Machine.reader_recovers {states : Except ShapeFault (List (String × State))}
    {record : Record} {machine : Machine} {inBranch : Bool}
    (recovers : ∀ named, states = .ok named →
      readNamedStates inBranch (stateDocuments named) = .ok named)
    (assembled : (reader states).assemble record = .ok machine) :
    readShape inBranch machine.toDocument = .ok machine := by
  have found := assemble_eq_ok_iff.mp assembled
  simp only [reader, exists_assemble_seq, exists_assemble_map] at found
  obtain ⟨startAt, startAt_read, named, named_read, comment, comment_read, version,
    version_read, timeout, timeout_read, rfl⟩ := found
  obtain ⟨_, _, named_given⟩ := required_eq_ok.mp named_read
  have recovered := recovers named named_given
  rw [toDocument, Document.ofMembers, readShape]
  apply read_ofMembers
  apply assemble_eq_ok_iff.mpr
  simp only [reader, exists_assemble_seq, exists_assemble_map]
  refine ⟨_, required_recovers Shape.text_recovers startAt_read ?_,
    named, required_eq_ok.mpr ⟨.object (stateDocuments named), ?_, ?_⟩,
    _, optionalText_recovers comment_read ?_, _, optionalText_recovers version_read ?_,
    _, optionalNat_recovers timeout_read ?_, rfl⟩
  all_goals simp [statesMember_eq, readStates, recovered]

/-- Where no states can be written, none are to be recovered. -/
theorem Machine.readShape_of_stateless {inBranch : Bool} {document : Document}
    {machine : Machine} (parsed : (reader (.ok [])).read document = .ok machine) :
    readShape inBranch machine.toDocument = .ok machine := by
  obtain ⟨record, _, assembled⟩ := read_eq_ok parsed
  refine Machine.reader_recovers ?_ assembled
  intro named none_given
  cases none_given
  rfl

mutual

/-- A machine that was read is read again from the document that writes it. -/
theorem Machine.readShape_toDocument (inBranch : Bool) :
    ∀ (document : Document) (machine : Machine),
      Machine.readShape inBranch document = .ok machine →
        Machine.readShape inBranch machine.toDocument = .ok machine
  | .object members, machine, parsed => by
      rw [Machine.readShape] at parsed
      obtain ⟨record, _, assembled⟩ := read_eq_ok parsed
      exact Machine.reader_recovers (statesMember_toDocuments inBranch members) assembled
  | .array (startAt :: states :: rest), machine, parsed => by
      rw [Machine.readShape] at parsed
      obtain ⟨record, _, assembled⟩ := read_eq_ok parsed
      exact Machine.reader_recovers (readStates_toDocuments inBranch states) assembled
  | .array [], machine, parsed => Machine.readShape_of_stateless parsed
  | .array [_], machine, parsed => Machine.readShape_of_stateless parsed
  | .null, machine, parsed => Machine.readShape_of_stateless parsed
  | .bool _, machine, parsed => Machine.readShape_of_stateless parsed
  | .number _, machine, parsed => Machine.readShape_of_stateless parsed
  | .string _, machine, parsed => Machine.readShape_of_stateless parsed

theorem statesMember_toDocuments (inBranch : Bool) :
    ∀ (members : List (String × Document)) (named : List (String × State)),
      statesMember inBranch members = .ok named →
        readNamedStates inBranch (stateDocuments named) = .ok named
  | [], _, parsed => by
      cases parsed
      rfl
  | (name, value) :: rest, named, parsed => by
      rw [statesMember] at parsed
      split at parsed
      · exact readStates_toDocuments inBranch value named parsed
      · exact statesMember_toDocuments inBranch rest named parsed

theorem readStates_toDocuments (inBranch : Bool) :
    ∀ (document : Document) (named : List (String × State)),
      readStates inBranch document = .ok named →
        readNamedStates inBranch (stateDocuments named) = .ok named
  | .object members, named, parsed => by
      rw [readStates] at parsed
      exact readNamedStates_toDocuments inBranch members named parsed
  | .null, _, parsed => by cases parsed
  | .bool _, _, parsed => by cases parsed
  | .number _, _, parsed => by cases parsed
  | .string _, _, parsed => by cases parsed
  | .array _, _, parsed => by cases parsed

theorem readNamedStates_toDocuments (inBranch : Bool) :
    ∀ (members : List (String × Document)) (named : List (String × State)),
      readNamedStates inBranch members = .ok named →
        readNamedStates inBranch (stateDocuments named) = .ok named
  | [], _, parsed => by
      cases parsed
      rfl
  | (name, value) :: rest, named, parsed => by
      rw [readNamedStates] at parsed
      obtain ⟨state, state_parsed, parsed⟩ := Outcome.bind_eq_ok.mp parsed
      obtain ⟨others, others_parsed, parsed⟩ := Outcome.bind_eq_ok.mp parsed
      cases parsed
      rw [stateDocuments, readNamedStates,
        State.readShape_toDocument inBranch value state state_parsed,
        readNamedStates_toDocuments inBranch rest others others_parsed]
      rfl

/-- A state that was read is read again from the document that writes it. -/
theorem State.readShape_toDocument (inBranch : Bool) :
    ∀ (document : Document) (state : State),
      State.readShape inBranch document = .ok state →
        State.readShape inBranch state.toDocument = .ok state
  | .object members, state, parsed => by
      rw [State.readShape] at parsed
      split at parsed
      · cases parsed
      · obtain ⟨kind, _, parsed⟩ := Outcome.bind_eq_ok.mp parsed
        obtain ⟨record, _, assembled⟩ := read_eq_ok parsed
        exact State.reader_recovers (branchesMember_toDocuments members) inBranch assembled
  | .array [], _, parsed => by cases parsed
  | .array [type], state, parsed => by
      rw [State.readShape] at parsed
      obtain ⟨kind, _, parsed⟩ := Outcome.bind_eq_ok.mp parsed
      obtain ⟨record, _, assembled⟩ := read_eq_ok parsed
      refine State.reader_recovers ?_ inBranch assembled
      intro machines none_given
      cases none_given
      rfl
  | .array (type :: first :: rest), state, parsed => by
      rw [State.readShape] at parsed
      obtain ⟨kind, _, parsed⟩ := Outcome.bind_eq_ok.mp parsed
      obtain ⟨record, _, assembled⟩ := read_eq_ok parsed
      exact State.reader_recovers (readBranches_toDocuments first) inBranch assembled
  | .null, _, parsed => by cases parsed
  | .bool _, _, parsed => by cases parsed
  | .number _, _, parsed => by cases parsed
  | .string _, _, parsed => by cases parsed

theorem branchesMember_toDocuments :
    ∀ (members : List (String × Document)) (machines : List Machine),
      branchesMember members = .ok machines →
        readMachines (machineDocuments machines) = .ok machines
  | [], _, parsed => by
      cases parsed
      rfl
  | (name, value) :: rest, machines, parsed => by
      rw [branchesMember] at parsed
      split at parsed
      · exact readBranches_toDocuments value machines parsed
      · exact branchesMember_toDocuments rest machines parsed

theorem readBranches_toDocuments :
    ∀ (document : Document) (machines : List Machine),
      readBranches document = .ok machines →
        readMachines (machineDocuments machines) = .ok machines
  | .array items, machines, parsed => by
      rw [readBranches] at parsed
      exact readMachines_toDocuments items machines parsed
  | .null, _, parsed => by cases parsed
  | .bool _, _, parsed => by cases parsed
  | .number _, _, parsed => by cases parsed
  | .string _, _, parsed => by cases parsed
  | .object _, _, parsed => by cases parsed

theorem readMachines_toDocuments :
    ∀ (documents : List Document) (machines : List Machine),
      readMachines documents = .ok machines →
        readMachines (machineDocuments machines) = .ok machines
  | [], _, parsed => by
      cases parsed
      rfl
  | document :: rest, machines, parsed => by
      rw [readMachines] at parsed
      obtain ⟨machine, machine_parsed, parsed⟩ := Outcome.bind_eq_ok.mp parsed
      obtain ⟨others, others_parsed, parsed⟩ := Outcome.bind_eq_ok.mp parsed
      cases parsed
      rw [machineDocuments, readMachines,
        Machine.readShape_toDocument true document machine machine_parsed,
        readMachines_toDocuments rest others others_parsed]
      rfl

end

namespace Machine

theorem read_toDocument {document : Document} {machine : Machine}
    (parsed : read document = .ok machine) : read machine.toDocument = .ok machine := by
  have shaped := Outcome.mapError_eq_ok.mp parsed
  exact Outcome.mapError_eq_ok.mpr (readShape_toDocument false document machine shaped)

theorem checkMachineRules_of_read {document : Document} {machine : Machine}
    (parsed : read document = .ok machine) : checkMachineRules document = .ok () :=
  checkMachineRules_of_readShape (Outcome.mapError_eq_ok.mp parsed)

theorem ofDocument_eq_ok {document : Document} {machine : Machine} :
    ofDocument document = .ok machine ↔
      checkMachineRules document = .ok () ∧ read document = .ok machine ∧
        machine.validate = .ok () := by
  constructor
  · intro loaded
    obtain ⟨_, checked, loaded⟩ := Outcome.bind_eq_ok.mp loaded
    obtain ⟨same, parsed, loaded⟩ := Outcome.bind_eq_ok.mp loaded
    obtain ⟨_, valid, loaded⟩ := Outcome.bind_eq_ok.mp loaded
    cases loaded
    exact ⟨checked, parsed, valid⟩
  · rintro ⟨checked, parsed, valid⟩
    have validated : (machine.validate >>= fun _ => .ok machine) = .ok machine :=
      Outcome.bind_eq_ok.mpr ⟨(), valid, rfl⟩
    refine Outcome.bind_eq_ok.mpr ⟨(), checked, ?_⟩
    exact Outcome.bind_eq_ok.mpr ⟨machine, parsed, validated⟩

/-- A machine that was loaded from a document is loaded again, as it is, from the document
that writes it; the same holds of a machine that was only read. -/
theorem recovered_from_toDocument {document : Document} {machine : Machine} :
    (ofDocument document = .ok machine → ofDocument machine.toDocument = .ok machine) ∧
      (read document = .ok machine → read machine.toDocument = .ok machine) := by
  refine ⟨?_, read_toDocument⟩
  intro loaded
  obtain ⟨_, parsed, valid⟩ := ofDocument_eq_ok.mp loaded
  have again := read_toDocument parsed
  exact ofDocument_eq_ok.mpr ⟨checkMachineRules_of_read again, again, valid⟩

/-- A machine with a branch that chooses. -/
def forked : Machine :=
  ⟨"Fork",
    [("Fork", .parallel ⟨none, .absent, .absent⟩
      [⟨"Pick",
        [("Pick", .choice ⟨none, .absent, .absent⟩
            ⟨[.comparison ⟨"$.order", .typeTest .isPresent true⟩ (some "Rest")], none,
              ⟨none, false⟩⟩),
          ("Rest", .succeed ⟨some "done", .path "$", .path "$.order"⟩)],
        none, none, none⟩]
      ⟨none, none, .null⟩ ⟨[], []⟩ ⟨none, true⟩)],
    none, none, some 5⟩

/-- The same machine by hand, its branch and one of its states as arrays. -/
def forkedDocument : Document :=
  .object
    [("StartAt", .string "Fork"),
      ("States", .object [("Fork", .object
        [("Branches", .array [.array [.string "Pick", .object
            [("Pick", .object
                [("Choices", .array [.object
                    [("IsPresent", .bool true), ("Next", .string "Rest"),
                      ("Variable", .string "$.order")]]),
                  ("Default", .null), ("Type", .string "Choice")]),
              ("Rest", .array [.string "Succeed", .string "done", .string "$",
                .string "$.order"])]]]),
          ("Catch", .array []), ("End", .bool true), ("ResultPath", .null),
          ("Type", .string "Parallel")])]),
      ("TimeoutSeconds", .ofNat 5)]

theorem forked_recovered :
    ofDocument forkedDocument = .ok forked ∧ ofDocument forked.toDocument = .ok forked ∧
      read forked.toDocument = .ok forked := by
  have loaded : ofDocument forkedDocument = .ok forked := rfl
  have parsed : read forkedDocument = .ok forked := rfl
  exact ⟨loaded, recovered_from_toDocument.1 loaded, recovered_from_toDocument.2 parsed⟩

end Machine

end StatesLanguage
