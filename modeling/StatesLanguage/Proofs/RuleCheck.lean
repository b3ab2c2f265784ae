import StatesLanguage.Machine.Loading
import StatesLanguage.Proofs.RuleNotation

/-!
# Rules that stand in documents

Two walks meet the rules of a document.  Reading a machine meets every rule, whether its
machines and states are written as objects or as arrays: `HoldsRule` says where.  The walk
ahead of it keeps to objects that name the kinds of their states in text: `HoldsPlainly`.
The theorems about the walk ahead say that it reads the rules at its own places, all of
them and no others.
-/

namespace StatesLanguage

theorem StateKind.read_string_eq_ok {inBranch : Bool} {text : String} {kind : StateKind} :
    StateKind.read inBranch (.string text) = .ok kind ↔ kind.name = text := by
  constructor
  · intro parsed
    rw [StateKind.read] at parsed
    split at parsed
    · rename_i same found
      cases parsed
      have named := List.find?_some found
      simpa using named
    · cases parsed
  · rintro rfl
    cases kind <;> rfl

namespace Document

/-- The items of the array that stands under a name. -/
def itemsUnder (name : String) (document : Document) : List Document :=
  ((document.member? name).bind array?).getD []

/-- The members of the object that stands under a name. -/
def membersUnder (name : String) (document : Document) : List (String × Document) :=
  ((document.member? name).bind object?).getD []

/-- The states of a machine in either notation. -/
def writtenStates : Document → List (String × Document)
  | .array (_ :: .object states :: _) => states
  | document => document.membersUnder "States"

/-- The kind of a state in either notation. -/
def writtenKind : Document → Option Document
  | .array (kind :: _) => some kind
  | document => document.member? "Type"

/-- The items of the member that a state declares first, in either notation. -/
def writtenItems (name : String) : Document → List Document
  | .array (_ :: .array items :: _) => items
  | document => document.itemsUnder name

/-- A rule stands in the document of a machine, a branch or not, where reading meets it. -/
inductive HoldsRule (rule : Document) : Bool → Document → Prop where
  | own {inBranch : Bool} {machine state kind : Document} {name : String}
      (among : (name, state) ∈ machine.writtenStates)
      (written : state.writtenKind = some kind)
      (choice : StateKind.read inBranch kind = .ok .choice)
      (listed : rule ∈ state.writtenItems "Choices") : HoldsRule rule inBranch machine
  | inside {inBranch : Bool} {machine state kind branch : Document} {name : String}
      (among : (name, state) ∈ machine.writtenStates)
      (written : state.writtenKind = some kind)
      (parallel : StateKind.read inBranch kind = .ok .parallel)
      (listed : branch ∈ state.writtenItems "Branches")
      (held : HoldsRule rule true branch) : HoldsRule rule inBranch machine

/-- A rule stands in objects that name the kinds of their states in text. -/
inductive HoldsPlainly (rule : Document) : Document → Prop where
  | own {machine state : Document} {name : String}
      (among : (name, state) ∈ machine.membersUnder "States")
      (choice : state.member? "Type" = some (.string "Choice"))
      (listed : rule ∈ state.itemsUnder "Choices") : HoldsPlainly rule machine
  | inside {machine state branch : Document} {name : String}
      (among : (name, state) ∈ machine.membersUnder "States")
      (parallel : state.member? "Type" = some (.string "Parallel"))
      (listed : branch ∈ state.itemsUnder "Branches")
      (held : HoldsPlainly rule branch) : HoldsPlainly rule machine

theorem eq_object_of_member? {document value : Document} {name : String}
    (found : document.member? name = some value) :
    ∃ members, document = .object members ∧ Members.get? name members = some value := by
  cases document with
  | object members => exact ⟨members, rfl, found⟩
  | null => cases found
  | bool value => cases found
  | number value => cases found
  | string value => cases found
  | array items => cases found

theorem mem_itemsUnder {document item : Document} {name : String} :
    item ∈ document.itemsUnder name ↔
      ∃ items, document.member? name = some (.array items) ∧ item ∈ items := by
  unfold itemsUnder
  cases document.member? name with
  | none => simp
  | some value => cases value <;> simp [array?]

theorem mem_membersUnder {document : Document} {member : String × Document} {name : String} :
    member ∈ document.membersUnder name ↔
      ∃ members, document.member? name = some (.object members) ∧ member ∈ members := by
  unfold membersUnder
  cases document.member? name with
  | none => simp
  | some value => cases value <;> simp [object?]

theorem writtenStates_of_object {document : Document} {member : String × Document}
    (among : member ∈ document.membersUnder "States") : member ∈ document.writtenStates := by
  obtain ⟨_, found, _⟩ := mem_membersUnder.mp among
  obtain ⟨members, rfl, _⟩ := eq_object_of_member? found
  exact among

theorem writtenKind_of_object {document kind : Document}
    (named : document.member? "Type" = some kind) : document.writtenKind = some kind := by
  obtain ⟨members, rfl, _⟩ := eq_object_of_member? named
  exact named

theorem writtenItems_of_object {document item : Document} {name : String}
    (listed : item ∈ document.itemsUnder name) : item ∈ document.writtenItems name := by
  obtain ⟨_, found, _⟩ := mem_itemsUnder.mp listed
  obtain ⟨members, rfl, _⟩ := eq_object_of_member? found
  exact listed

theorem HoldsPlainly.holdsRule {rule document : Document} (held : HoldsPlainly rule document)
    (inBranch : Bool) : HoldsRule rule inBranch document := by
  induction held generalizing inBranch with
  | own among choice listed =>
      have written := writtenKind_of_object choice
      exact .own (writtenStates_of_object among) written rfl (writtenItems_of_object listed)
  | inside among parallel listed held induction =>
      have written := writtenKind_of_object parallel
      exact .inside (writtenStates_of_object among) written rfl
        (writtenItems_of_object listed) (induction true)

/-- The machines of a document are objects, and so are their states, which name their kinds
in text. -/
inductive Plain : Document → Prop where
  | machine {members : List (String × Document)}
      (kinds : ∀ name state, (name, state) ∈ (object members).membersUnder "States" →
        ∃ kind, state.member? "Type" = some (.string kind))
      (branches : ∀ name state branch, (name, state) ∈ (object members).membersUnder "States" →
        branch ∈ state.itemsUnder "Branches" → Plain branch) : Plain (object members)

theorem Plain.state {members : List (String × Document)} {state written : Document}
    {inBranch : Bool} {kind : StateKind} {name : String} (plain : Plain (object members))
    (among : (name, state) ∈ (object members).membersUnder "States")
    (shown : state.writtenKind = some written)
    (kind_read : StateKind.read inBranch written = .ok kind) :
    state.member? "Type" = some (.string kind.name) ∧
      ∀ field, state.writtenItems field = state.itemsUnder field := by
  cases plain with
  | machine kinds branches =>
      obtain ⟨text, typed⟩ := kinds name state among
      obtain ⟨fields, rfl, _⟩ := eq_object_of_member? typed
      have same : written = .string text := Option.some.inj (shown.symm.trans typed)
      rw [same] at kind_read
      rw [StateKind.read_string_eq_ok.mp kind_read]
      exact ⟨typed, fun _ => rfl⟩

/-- In plain notation both walks meet the same rules. -/
theorem HoldsRule.holdsPlainly {rule document : Document} {inBranch : Bool}
    (held : HoldsRule rule inBranch document) (plain : document.Plain) :
    HoldsPlainly rule document := by
  induction held with
  | own among written choice listed =>
      cases plain with
      | machine kinds branches =>
          obtain ⟨typed, items⟩ := Plain.state (.machine kinds branches) among written choice
          rw [items] at listed
          exact .own among typed listed
  | inside among written parallel listed held induction =>
      cases plain with
      | machine kinds branches =>
          obtain ⟨typed, items⟩ := Plain.state (.machine kinds branches) among written parallel
          rw [items] at listed
          exact .inside among typed listed (induction (branches _ _ _ among listed))

theorem sizeOf_lt_of_member? {document value : Document} {name : String}
    (found : document.member? name = some value) : sizeOf value < sizeOf document := by
  obtain ⟨members, rfl, value_found⟩ := eq_object_of_member? found
  have smaller := List.sizeOf_lt_of_mem (Members.mem_of_get? value_found)
  rw [Prod.mk.sizeOf_spec] at smaller
  rw [object.sizeOf_spec]
  omega

theorem sizeOf_lt_of_itemsUnder {document item : Document} {name : String}
    (listed : item ∈ document.itemsUnder name) : sizeOf item < sizeOf document := by
  obtain ⟨items, found, member⟩ := mem_itemsUnder.mp listed
  have outer := sizeOf_lt_of_member? found
  have inner := List.sizeOf_lt_of_mem member
  rw [array.sizeOf_spec] at outer
  omega

theorem sizeOf_lt_of_membersUnder {document value : Document} {name other : String}
    (among : (other, value) ∈ document.membersUnder name) :
    sizeOf value < sizeOf document := by
  obtain ⟨members, found, member⟩ := mem_membersUnder.mp among
  have outer := sizeOf_lt_of_member? found
  have inner := List.sizeOf_lt_of_mem member
  rw [object.sizeOf_spec] at outer
  rw [Prod.mk.sizeOf_spec] at inner
  omega

end Document

open Document

/-- An operator is not known, or a rule is not formed as rules are. -/
def Failure.IsOfRule : Failure → Prop
  | .unsupportedOperator _ => True
  | .invalidDefinition _ => True
  | _ => False

namespace Rule

open Outcome

theorem readOperator_failsOnly (key : String) (operand : Document) :
    FailsOnly Failure.IsOfRule (readOperator key operand) := by
  unfold readOperator
  split
  · exact .error trivial
  · split
    · exact .ok _
    · exact .error trivial
  · split
    · apply FailsOnly.map
      unfold readPattern
      split
      · exact .ok _
      · exact .error trivial
    · exact .error trivial
  · split
    · exact .ok _
    · exact .error trivial
  · split
    · exact .ok _
    · exact .error trivial

theorem readNext_failsOnly (members : List (String × Document)) :
    FailsOnly Failure.IsOfRule (readNext members) := by
  unfold readNext
  split
  · exact .ok _
  · exact .ok _
  · exact .error trivial

theorem readComparison_failsOnly (members : List (String × Document)) :
    FailsOnly Failure.IsOfRule (readComparison members) := by
  unfold readComparison
  split
  · exact .error trivial
  · exact .error trivial
  · apply FailsOnly.bind (readOperator_failsOnly _ _)
    intro operator _
    split
    · exact .ok _
    · exact .error trivial

theorem readAll_failsOnly {documents : List Document}
    (each : ∀ document, document ∈ documents → FailsOnly Failure.IsOfRule (read document)) :
    FailsOnly Failure.IsOfRule (readAll documents) := by
  induction documents with
  | nil =>
      rw [readAll]
      exact .ok _
  | cons document rest induction =>
      obtain ⟨head, tail⟩ := List.forall_mem_cons.mp each
      rw [readAll]
      apply FailsOnly.bind head
      intro rule _
      apply FailsOnly.bind (induction tail)
      intro rules _
      exact .ok _

theorem readList_failsOnly {combinator : String} {document : Document}
    (each : ∀ items, document = .array items →
      ∀ item, item ∈ items → FailsOnly Failure.IsOfRule (read item)) :
    FailsOnly Failure.IsOfRule (readList combinator document) := by
  unfold readList
  split
  · exact .error trivial
  · exact readAll_failsOnly (each _ rfl)
  · exact .error trivial

theorem read_failsOnly (document : Document) :
    FailsOnly Failure.IsOfRule (read document) := by
  cases document with
  | object members =>
      have listed : ∀ combinator value, Members.get? combinator members = some value →
          FailsOnly Failure.IsOfRule (readList combinator value) := by
        intro combinator value found
        apply readList_failsOnly
        rintro items rfl item member
        have smaller : sizeOf item < sizeOf (Document.object members) :=
          sizeOf_lt_of_itemsUnder (mem_itemsUnder.mpr ⟨items, found, member⟩)
        exact read_failsOnly item
      rw [read, findRules_eq, findRules_eq, findRule_eq]
      apply FailsOnly.bind (readNext_failsOnly members)
      intro next _
      cases conjunction : Members.get? "And" members with
      | some value => exact (listed "And" value conjunction).bind fun _ _ => .ok _
      | none =>
      cases disjunction : Members.get? "Or" members with
      | some value => exact (listed "Or" value disjunction).bind fun _ _ => .ok _
      | none =>
      cases negated : Members.get? "Not" members with
      | some value =>
          have smaller : sizeOf value < sizeOf (Document.object members) :=
            sizeOf_lt_of_member? negated
          exact (read_failsOnly value).bind fun _ _ => .ok _
      | none => exact (readComparison_failsOnly members).bind fun _ _ => .ok _
  | null => exact .error trivial
  | bool value => exact .error trivial
  | number value => exact .error trivial
  | string value => exact .error trivial
  | array items => exact .error trivial
termination_by sizeOf document
decreasing_by all_goals exact smaller

/-- Whether a rule can be read. -/
def check (document : Document) : Except Failure Unit :=
  (read document).map fun _ => ()

theorem check_eq_ok_iff {document : Document} :
    check document = .ok () ↔ ∃ rule, read document = .ok rule := by
  rw [check, map_eq_ok]
  constructor
  · rintro ⟨rule, parsed, _⟩
    exact ⟨rule, parsed⟩
  · rintro ⟨rule, parsed⟩
    exact ⟨rule, parsed, rfl⟩

theorem map_readAll_eq (documents : List Document) :
    (readAll documents).map (fun _ => ()) = documents.forM check := by
  induction documents with
  | nil =>
      rw [readAll]
      rfl
  | cons document rest induction =>
      rw [readAll, List.forM, ← induction, check]
      cases read document with
      | error failure => rfl
      | ok rule =>
          cases readAll rest with
          | error failure => rfl
          | ok rules => rfl

end Rule

theorem checkNamedStates_eq (members : List (String × Document)) :
    checkNamedStates members = members.forM fun member => checkStateRules member.2 := by
  induction members with
  | nil =>
      rw [checkNamedStates]
      rfl
  | cons member rest induction =>
      rw [checkNamedStates, induction]
      rfl

theorem checkMachines_eq (machines : List Document) :
    checkMachines machines = machines.forM checkMachineRules := by
  induction machines with
  | nil =>
      rw [checkMachines]
      rfl
  | cons machine rest induction =>
      rw [checkMachines, induction]
      rfl

theorem checkStatesMember_eq (members : List (String × Document)) :
    checkStatesMember members =
      checkNamedStates ((Document.object members).membersUnder "States") := by
  have walked : checkStatesMember members =
      (Members.get? "States" members).elim (.ok ()) checkStates :=
    Members.eq_elim_get? checkStatesMember (by rw [checkStatesMember])
      (fun _ _ _ => by rw [checkStatesMember]) members
  rw [walked, membersUnder, member?]
  cases Members.get? "States" members with
  | none => rfl
  | some value => cases value <;> rfl

theorem checkBranchesMember_eq (members : List (String × Document)) :
    checkBranchesMember members =
      checkMachines ((Document.object members).itemsUnder "Branches") := by
  have walked : checkBranchesMember members =
      (Members.get? "Branches" members).elim (.ok ()) checkBranches :=
    Members.eq_elim_get? checkBranchesMember (by rw [checkBranchesMember])
      (fun _ _ _ => by rw [checkBranchesMember]) members
  rw [walked, itemsUnder, member?]
  cases Members.get? "Branches" members with
  | none => rfl
  | some value => cases value <;> rfl

theorem checkMachineRules_eq (document : Document) :
    checkMachineRules document =
      (document.membersUnder "States").forM fun member => checkStateRules member.2 := by
  rw [← checkNamedStates_eq]
  cases document with
  | object members =>
      rw [checkMachineRules]
      exact checkStatesMember_eq members
  | null => rfl
  | bool value => rfl
  | number value => rfl
  | string value => rfl
  | array items => rfl

theorem checkStateRules_eq (state : Document) :
    checkStateRules state =
      if state.member? "Type" = some (.string "Choice") then
        (state.itemsUnder "Choices").forM Rule.check
      else if state.member? "Type" = some (.string "Parallel") then
        (state.itemsUnder "Branches").forM checkMachineRules
      else .ok () := by
  cases state with
  | object members =>
      rw [checkStateRules, member?]
      split
      · rename_i choice
        rw [if_pos (bind_string?_eq_some.mp choice), ← Rule.map_readAll_eq, itemsUnder, member?]
        cases (Members.get? "Choices" members).bind array? with
        | none => rfl
        | some rules => rfl
      · rename_i parallel
        have typed := bind_string?_eq_some.mp parallel
        rw [if_neg (by simp [typed]), if_pos typed, ← checkMachines_eq, ← checkBranchesMember_eq]
      · rename_i not_choice not_parallel
        rw [if_neg (mt bind_string?_eq_some.mpr not_choice),
          if_neg (mt bind_string?_eq_some.mpr not_parallel)]
  | null => rfl
  | bool value => rfl
  | number value => rfl
  | string value => rfl
  | array items => rfl

/-- The walk ahead fails as one of the rules at its places does. -/
theorem exists_refused_of_check (document : Document) {failure : Failure}
    (failed : checkMachineRules document = .error failure) :
    ∃ rule, HoldsPlainly rule document ∧ Rule.read rule = .error failure := by
  rw [checkMachineRules_eq] at failed
  obtain ⟨⟨name, state⟩, among, failed⟩ := Outcome.exists_of_forM_eq_error failed
  rw [checkStateRules_eq] at failed
  split at failed
  · rename_i choice
    obtain ⟨rule, listed, refused⟩ := Outcome.exists_of_forM_eq_error failed
    exact ⟨rule, .own among choice listed, Outcome.map_eq_error.mp refused⟩
  · split at failed
    · rename_i parallel
      obtain ⟨branch, listed, failed⟩ := Outcome.exists_of_forM_eq_error failed
      have inner := sizeOf_lt_of_itemsUnder listed
      have outer := sizeOf_lt_of_membersUnder among
      have smaller : sizeOf branch < sizeOf document := Nat.lt_trans inner outer
      obtain ⟨rule, held, refused⟩ := exists_refused_of_check branch failed
      exact ⟨rule, .inside among parallel listed held, refused⟩
    · cases failed
termination_by sizeOf document
decreasing_by exact smaller

theorem Document.HoldsPlainly.readable {rule document : Document} (held : HoldsPlainly rule document)
    (checked : checkMachineRules document = .ok ()) :
    ∃ value, Rule.read rule = .ok value := by
  induction held with
  | own among choice listed =>
      rw [checkMachineRules_eq] at checked
      have state_checked := Outcome.forM_eq_ok_iff.mp checked _ among
      rw [checkStateRules_eq, if_pos choice] at state_checked
      exact Rule.check_eq_ok_iff.mp (Outcome.forM_eq_ok_iff.mp state_checked _ listed)
  | inside among parallel listed held induction =>
      rw [checkMachineRules_eq] at checked
      have state_checked := Outcome.forM_eq_ok_iff.mp checked _ among
      rw [checkStateRules_eq, if_neg (by simp [parallel]), if_pos parallel] at state_checked
      exact induction (Outcome.forM_eq_ok_iff.mp state_checked _ listed)

/-- The walk ahead passes exactly if every rule at its places can be read. -/
theorem checkMachineRules_eq_ok_iff {document : Document} :
    checkMachineRules document = .ok () ↔
      ∀ rule, HoldsPlainly rule document → ∃ value, Rule.read rule = .ok value := by
  constructor
  · intro checked rule held
    exact held.readable checked
  · intro readable
    cases checked : checkMachineRules document with
    | ok _ => rfl
    | error failure =>
        obtain ⟨rule, held, refused⟩ := exists_refused_of_check document checked
        obtain ⟨value, parsed⟩ := readable rule held
        rw [parsed] at refused
        cases refused

end StatesLanguage
