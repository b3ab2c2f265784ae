import StatesLanguage.Proofs.MachineNotation

/-!
# What the walk ahead decides

The walk over the rules of a document ahead of reading it keeps no machine from being
loaded.  It decides how a rule that cannot be read is reported: where it meets the rule, with
the failure of the rule, and else as a document that cannot be read.
-/

namespace StatesLanguage

open Document

namespace Machine

theorem ofDocument_eq_error_of_check {document : Document} {failure : Failure}
    (stopped : checkMachineRules document = .error failure) :
    ofDocument document = .error failure :=
  Outcome.bind_eq_error.mpr (.inl stopped)

/-- A document with a rule that cannot be read is not read as a machine. -/
theorem read_eq_error_of_refused {document rule : Document} {failure : Failure}
    (held : HoldsRule rule false document) (refused : Rule.read rule = .error failure) :
    ∃ detail, read document = .error (.unreadable detail) := by
  cases shaped : readShape false document with
  | ok machine =>
      obtain ⟨value, parsed, _⟩ := held.hasRule shaped
      rw [parsed] at refused
      cases refused
  | error fault =>
      refine ⟨fault.message, ?_⟩
      rw [read, shaped]
      rfl

theorem ofDocument_eq_error_of_refused {document rule : Document} {failure : Failure}
    (held : HoldsRule rule false document) (refused : Rule.read rule = .error failure)
    (checked : checkMachineRules document = .ok ()) :
    ∃ detail, ofDocument document = .error (.unreadable detail) := by
  obtain ⟨detail, unread⟩ := read_eq_error_of_refused held refused
  refine ⟨detail, Outcome.bind_eq_error.mpr (.inr ⟨(), checked, ?_⟩)⟩
  exact Outcome.bind_eq_error.mpr (.inl unread)

/-- The walk ahead passes exactly if it can read the rules that it meets, and reports one of
them, with the failure of the rule, if it cannot.  In plain notation it meets every rule. -/
theorem refusal_reported (document : Document) :
    (checkMachineRules document = .ok () ↔
        ∀ rule, HoldsPlainly rule document → ∃ value, Rule.read rule = .ok value) ∧
      (∀ rule failure, HoldsPlainly rule document → Rule.read rule = .error failure →
        ∃ first fault, HoldsPlainly first document ∧ Rule.read first = .error fault ∧
          fault.IsOfRule ∧ ofDocument document = .error fault) ∧
      (document.Plain →
        ∀ rule, HoldsRule rule false document ↔ HoldsPlainly rule document) := by
  refine ⟨checkMachineRules_eq_ok_iff, ?_, ?_⟩
  · intro rule failure held refused
    cases checked : checkMachineRules document with
    | ok _ =>
        obtain ⟨value, parsed⟩ := checkMachineRules_eq_ok_iff.mp checked rule held
        rw [parsed] at refused
        cases refused
    | error fault =>
        obtain ⟨first, first_held, first_refused⟩ := exists_refused_of_check document checked
        have of_rule := Rule.read_failsOnly first fault first_refused
        have reported := ofDocument_eq_error_of_check checked
        exact ⟨first, fault, first_held, first_refused, of_rule, reported⟩
  · intro plain rule
    constructor
    · intro held
      exact held.holdsPlainly plain
    · intro held
      exact held.holdsRule false

/-- A rule with an operator that there is not. -/
def misspelled : Document :=
  .object
    [("Next", .string "Rest"), ("StringContains", .string "x"), ("Variable", .string "$.a")]

def misspelledDocument : Document :=
  .object
    [("StartAt", .string "Fork"),
      ("States", .object [("Fork", .object
        [("Branches", .array [.object
            [("StartAt", .string "Pick"),
              ("States", .object
                [("Pick", .object
                    [("Choices", .array [misspelled]), ("Type", .string "Choice")]),
                  ("Rest", .object [("Type", .string "Succeed")])])]]),
          ("End", .bool true), ("Type", .string "Parallel")])])]

theorem misspelled_refused :
    Rule.read misspelled = .error (.unsupportedOperator "StringContains") := rfl

theorem misspelledDocument_plain : misspelledDocument.Plain := by
  apply Plain.machine
  · intro name state among
    cases List.mem_singleton.mp among
    exact ⟨_, rfl⟩
  · intro name state branch among listed
    cases List.mem_singleton.mp among
    cases List.mem_singleton.mp listed
    apply Plain.machine
    · intro name state among
      rcases List.mem_cons.mp among with same | later
      · cases same
        exact ⟨_, rfl⟩
      · cases List.mem_singleton.mp later
        exact ⟨_, rfl⟩
    · intro name state branch among listed
      rcases List.mem_cons.mp among with same | later
      · cases same
        cases listed
      · cases List.mem_singleton.mp later
        cases listed

theorem misspelledDocument_holds : HoldsRule misspelled false misspelledDocument := by
  apply HoldsRule.inside List.mem_cons_self rfl rfl List.mem_cons_self
  exact HoldsRule.own List.mem_cons_self rfl rfl List.mem_cons_self

theorem misspelled_reported :
    HoldsPlainly misspelled misspelledDocument ∧
      checkMachineRules misspelledDocument ≠ .ok () ∧
      ∃ first fault, HoldsPlainly first misspelledDocument ∧ Rule.read first = .error fault ∧
        fault.IsOfRule ∧ ofDocument misspelledDocument = .error fault := by
  obtain ⟨passes, reports, meets⟩ := refusal_reported misspelledDocument
  have held := (meets misspelledDocument_plain misspelled).mp misspelledDocument_holds
  refine ⟨held, ?_, reports misspelled _ held misspelled_refused⟩
  intro checked
  obtain ⟨value, parsed⟩ := passes.mp checked misspelled held
  cases misspelled_refused.symm.trans parsed

/-- A machine with this rule in a state that is written as an array. -/
def positionalDocument : Document :=
  .object
    [("StartAt", .string "Pick"),
      ("States", .object
        [("Pick", .array [.string "Choice", .array [misspelled]]),
          ("Rest", .object [("Type", .string "Succeed")])])]

/-- The walk ahead does not meet the rule here, so reading alone refuses the document. -/
theorem misspelled_unreported :
    checkMachineRules positionalDocument = .ok () ∧
      HoldsRule misspelled false positionalDocument ∧
      Rule.read misspelled = .error (.unsupportedOperator "StringContains") ∧
      ∃ detail, ofDocument positionalDocument = .error (.unreadable detail) := by
  have checked : checkMachineRules positionalDocument = .ok () := rfl
  have held : HoldsRule misspelled false positionalDocument :=
    .own List.mem_cons_self rfl rfl List.mem_cons_self
  have reported := ofDocument_eq_error_of_refused held misspelled_refused checked
  exact ⟨checked, held, misspelled_refused, reported⟩

/-- The machines that are loaded are the valid ones among those that are read, as they would
be without the walk ahead; a document that it stops at could not be read either. -/
theorem ofDocument_eq_ok_iff_read (document : Document) :
    (∀ machine, ofDocument document = .ok machine ↔
        read document = .ok machine ∧ machine.validate = .ok ()) ∧
      (∀ machine, read document = .ok machine → checkMachineRules document = .ok ()) ∧
      ∀ failure, checkMachineRules document = .error failure →
        ofDocument document = .error failure ∧
          ∃ detail, read document = .error (.unreadable detail) := by
  refine ⟨?_, ?_, ?_⟩
  · intro machine
    rw [ofDocument_eq_ok]
    constructor
    · rintro ⟨_, parsed, valid⟩
      exact ⟨parsed, valid⟩
    · rintro ⟨parsed, valid⟩
      exact ⟨checkMachineRules_of_read parsed, parsed, valid⟩
  · intro machine parsed
    exact checkMachineRules_of_read parsed
  · intro failure stopped
    obtain ⟨rule, held, refused⟩ := exists_refused_of_check document stopped
    exact ⟨ofDocument_eq_error_of_check stopped,
      read_eq_error_of_refused (held.holdsRule false) refused⟩

theorem forked_loaded :
    checkMachineRules forkedDocument = .ok () ∧ ofDocument forkedDocument = .ok forked ∧
      ∃ detail, read misspelledDocument = .error (.unreadable detail) := by
  have parsed : read forkedDocument = .ok forked := rfl
  have valid : forked.validate = .ok () := rfl
  have stopped : checkMachineRules misspelledDocument =
      .error (.unsupportedOperator "StringContains") := rfl
  obtain ⟨loads, passes, _⟩ := ofDocument_eq_ok_iff_read forkedDocument
  obtain ⟨_, _, stops⟩ := ofDocument_eq_ok_iff_read misspelledDocument
  exact ⟨passes forked parsed, (loads forked).mpr ⟨parsed, valid⟩, (stops _ stopped).2⟩

end Machine

end StatesLanguage
