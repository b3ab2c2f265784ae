import Mathlib.Data.List.Forall2
import Mathlib.Data.List.Nodup
import StatesLanguage.Rule.Notation
import StatesLanguage.Proofs.Members
import StatesLanguage.Proofs.Outcome
import StatesLanguage.Proofs.RuleWalk

/-!
# Rules read back

A rule that was read is read again from the document that writes it.  `Rule.Expressible`
says, without reading, which rules those are: reading gives no others, and each of them is
recovered.  No two operators share a key and no key is a member of another purpose, so a
comparison is found again among the members that write it.
-/

namespace StatesLanguage

theorem exists_left_of_forall₂ {α β : Type} {related : α → β → Prop} {left : List α}
    {right : List β} {value : β} (pairs : List.Forall₂ related left right)
    (member : value ∈ right) : ∃ item, item ∈ left ∧ related item value := by
  induction pairs with
  | nil => cases member
  | cons pair others induction =>
      rcases List.mem_cons.mp member with rfl | later
      · exact ⟨_, List.mem_cons_self, pair⟩
      · obtain ⟨item, present, item_related⟩ := induction later
        exact ⟨item, List.mem_cons_of_mem _ present, item_related⟩

theorem exists_right_of_forall₂ {α β : Type} {related : α → β → Prop} {left : List α}
    {right : List β} {value : α} (pairs : List.Forall₂ related left right)
    (member : value ∈ left) : ∃ item, item ∈ right ∧ related value item :=
  exists_left_of_forall₂ pairs.flip member

theorem Document.eq_string {document : Document} {text : String}
    (shown : document.string? = some text) : document = .string text := by
  cases document with
  | string value =>
      cases shown
      rfl
  | null => cases shown
  | bool value => cases shown
  | number value => cases shown
  | array items => cases shown
  | object members => cases shown

theorem Document.bind_string?_eq_some {found : Option Document} {text : String} :
    found.bind string? = some text ↔ found = some (.string text) := by
  constructor
  · intro shown
    obtain ⟨value, value_found, shown⟩ := Option.bind_eq_some_iff.mp shown
    rw [value_found, eq_string shown]
  · rintro rfl
    rfl

namespace Rule

theorem Heading.key_of_ofKey? {key : String} {heading : Heading}
    (found : Heading.ofKey? key = some heading) : heading.key = key := by
  have same := List.find?_some found
  simpa using same

theorem readPattern_source {source : String} {pattern : Glob}
    (parsed : readPattern source = .ok pattern) : pattern.source = source := by
  unfold readPattern at parsed
  split at parsed
  · rename_i glob found
    cases parsed
    obtain ⟨tokens, _, rfl⟩ := Option.map_eq_some_iff.mp found
    rfl
  · cases parsed

/-- An operator that was read keeps the key and the operand that it was read from. -/
theorem readOperator_eq_ok {key : String} {operand : Document} {operator : Operator}
    (parsed : readOperator key operand = .ok operator) :
    operator.key = key ∧ operator.operand = operand := by
  unfold readOperator at parsed
  split at parsed
  · cases parsed
  · rename_i test found
    split at parsed
    · cases parsed
      exact ⟨Heading.key_of_ofKey? found, rfl⟩
    · cases parsed
  · rename_i found
    split at parsed
    · obtain ⟨pattern, pattern_parsed, rfl⟩ := Outcome.map_eq_ok.mp parsed
      have source := readPattern_source pattern_parsed
      exact ⟨Heading.key_of_ofKey? found, by rw [Operator.operand, source]⟩
    · cases parsed
  · rename_i kind relation found
    split at parsed
    · cases parsed
      exact ⟨Heading.key_of_ofKey? found, rfl⟩
    · cases parsed
  · rename_i kind relation found
    split at parsed
    · cases parsed
      exact ⟨Heading.key_of_ofKey? found, rfl⟩
    · cases parsed

/-- No two operators are announced by one key. -/
theorem Heading.nodup_keys : (every.map key).Nodup := by
  decide +kernel

theorem Heading.ofKey?_key {heading : Heading} (member : heading ∈ every) :
    ofKey? heading.key = some heading := by
  cases found : ofKey? heading.key with
  | none =>
      have passed := List.find?_eq_none.mp found heading member
      simp at passed
  | some other =>
      have same_key : other.key = heading.key := key_of_ofKey? found
      have other_member : other ∈ every := List.mem_of_find?_eq_some found
      rw [List.inj_on_of_nodup_map nodup_keys other_member member same_key]

theorem Heading.typeTest_mem (test : TypeTest) : typeTest test ∈ every := by
  cases test <;> decide

theorem Heading.compare_mem_iff {kind : Kind} {relation : Relation} {isPath : Bool} :
    compare kind relation isPath ∈ every ↔ relation ∈ kind.relations := by
  cases kind <;> cases relation <;> cases isPath <;> decide

/-- The operators that a key with an operand announces. -/
def Operator.Expressible : Operator → Prop
  | .compare kind relation (.literal value) =>
      relation ∈ kind.relations ∧ kind.admits value = true
  | .compare kind relation (.path _) => relation ∈ kind.relations
  | .stringMatches pattern => Glob.read? pattern.source = some pattern
  | .typeTest _ _ => True

theorem readPattern_eq_ok {source : String} {pattern : Glob} :
    readPattern source = .ok pattern ↔ Glob.read? source = some pattern := by
  unfold readPattern
  cases Glob.read? source with
  | none => simp
  | some other => simp

theorem expressible_of_readOperator {key : String} {operand : Document}
    {operator : Operator} (parsed : readOperator key operand = .ok operator) :
    operator.Expressible := by
  have announced : ∀ {heading}, Heading.ofKey? key = some heading → heading ∈ Heading.every :=
    List.mem_of_find?_eq_some
  unfold readOperator at parsed
  split at parsed
  · cases parsed
  · split at parsed
    · cases parsed
      trivial
    · cases parsed
  · split at parsed
    · obtain ⟨pattern, pattern_parsed, rfl⟩ := Outcome.map_eq_ok.mp parsed
      have source := readPattern_source pattern_parsed
      rw [Operator.Expressible, source]
      exact readPattern_eq_ok.mp pattern_parsed
    · cases parsed
  · rename_i found
    split at parsed
    · cases parsed
      exact Heading.compare_mem_iff.mp (announced found)
    · cases parsed
  · rename_i found
    split at parsed
    · rename_i admitted
      cases parsed
      exact ⟨Heading.compare_mem_iff.mp (announced found), admitted⟩
    · cases parsed

theorem readOperator_key_operand {operator : Operator} (expressible : operator.Expressible) :
    readOperator operator.key operator.operand = .ok operator := by
  cases operator with
  | compare kind relation operand =>
      cases operand with
      | literal value =>
          obtain ⟨related, admitted⟩ := expressible
          have announced : Heading.ofKey? (comparisonKey kind relation false) = _ :=
            Heading.ofKey?_key (Heading.compare_mem_iff.mpr related)
          simp [readOperator, Operator.key, Operator.operand, announced, admitted]
      | path expression =>
          have announced : Heading.ofKey? (comparisonKey kind relation true) = _ :=
            Heading.ofKey?_key (Heading.compare_mem_iff.mpr expressible)
          simp [readOperator, Operator.key, Operator.operand, announced]
  | stringMatches pattern =>
      have announced : Heading.ofKey? stringMatchesKey = _ :=
        @Heading.ofKey?_key .stringMatches (by decide)
      have parsed := readPattern_eq_ok.mpr expressible
      simp [readOperator, Operator.key, Operator.operand, announced, parsed, Except.map]
  | typeTest test expected =>
      have announced : Heading.ofKey? test.key = _ :=
        Heading.ofKey?_key (Heading.typeTest_mem test)
      simp [readOperator, Operator.key, Operator.operand, announced]

theorem comparisonKey_not_special (kind : Kind) (relation : Relation) (isPath : Bool) :
    comparisonKey kind relation isPath ∉ ["And", "Or", "Not", "Variable", "Next", "Comment"] := by
  cases kind <;> cases relation <;> cases isPath <;> decide

/-- The key of an operator is no member that a rule has for another purpose. -/
theorem Operator.key_not_special (operator : Operator) :
    operator.key ∉ ["And", "Or", "Not", "Variable", "Next", "Comment"] := by
  cases operator with
  | compare kind relation operand =>
      cases operand with
      | literal value => exact comparisonKey_not_special kind relation false
      | path expression => exact comparisonKey_not_special kind relation true
  | stringMatches pattern =>
      change stringMatchesKey ∉ _
      decide
  | typeTest test expected =>
      change test.key ∉ _
      cases test <;> decide

theorem findRules_eq (combinator : String) (members : List (String × Document)) :
    findRules combinator members =
      (Members.get? combinator members).map (readList combinator) := by
  have walked : findRules combinator members =
      (Members.get? combinator members).elim none (some ∘ readList combinator) :=
    Members.eq_elim_get? (findRules combinator) (by rw [findRules])
      (fun _ _ _ => by rw [findRules]; rfl) members
  rw [walked]
  cases Members.get? combinator members with
  | none => rfl
  | some value => rfl

theorem findRule_eq (combinator : String) (members : List (String × Document)) :
    findRule combinator members = (Members.get? combinator members).map read := by
  have walked : findRule combinator members =
      (Members.get? combinator members).elim none (some ∘ read) :=
    Members.eq_elim_get? (findRule combinator) (by rw [findRule])
      (fun _ _ _ => by rw [findRule]; rfl) members
  rw [walked]
  cases Members.get? combinator members with
  | none => rfl
  | some value => rfl

theorem readAll_eq_ok_iff {documents : List Document} {rules : List Rule} :
    readAll documents = .ok rules ↔
      List.Forall₂ (fun document rule => read document = .ok rule) documents rules := by
  induction documents generalizing rules with
  | nil =>
      rw [readAll, List.forall₂_nil_left_iff, Except.ok.injEq]
      exact eq_comm
  | cons document rest induction =>
      rw [readAll, List.forall₂_cons_left_iff]
      constructor
      · intro parsed
        obtain ⟨rule, rule_parsed, parsed⟩ := Outcome.bind_eq_ok.mp parsed
        obtain ⟨others, others_parsed, parsed⟩ := Outcome.bind_eq_ok.mp parsed
        cases parsed
        exact ⟨rule, others, rule_parsed, induction.mp others_parsed, rfl⟩
      · rintro ⟨rule, others, rule_parsed, others_parsed, rfl⟩
        rw [rule_parsed, induction.mpr others_parsed]
        rfl

theorem readList_eq_ok {combinator : String} {value : Document} {rules : List Rule}
    (parsed : readList combinator value = .ok rules) :
    ∃ items, value = .array items ∧ rules ≠ [] ∧
      List.Forall₂ (fun item rule => read item = .ok rule) items rules := by
  unfold readList at parsed
  split at parsed
  · cases parsed
  · rename_i items nonempty
    have parts := readAll_eq_ok_iff.mp parsed
    refine ⟨items, rfl, ?_, parts⟩
    rintro rfl
    exact nonempty (List.forall₂_nil_right_iff.mp parts)
  · cases parsed

/-- A comparison has the only member that is not reserved for its operator. -/
theorem readComparison_eq_ok {members : List (String × Document)} {leaf : Comparison}
    (parsed : readComparison members = .ok leaf) :
    leaf.operator.Expressible ∧
      Members.get? "Variable" members = some (.string leaf.path) ∧
      members.filter (fun member => !isReserved member.1) =
        [(leaf.operator.key, leaf.operator.operand)] := by
  unfold readComparison at parsed
  split at parsed
  · cases parsed
  · cases parsed
  · rename_i key operand operators
    obtain ⟨operator, operator_parsed, parsed⟩ := Outcome.bind_eq_ok.mp parsed
    split at parsed
    · rename_i path shown
      cases parsed
      obtain ⟨same_key, same_operand⟩ := readOperator_eq_ok operator_parsed
      refine ⟨expressible_of_readOperator operator_parsed, ?_, ?_⟩
      · exact Document.bind_string?_eq_some.mp shown
      · rw [operators, same_key, same_operand]
    · cases parsed

/-- What the members of an object say of a rule with this next state. -/
inductive Says (members : List (String × Document)) (next : Option String) : Rule → Prop where
  | all {items : List Document} {rules : List Rule}
      (found : Members.get? "And" members = some (.array items)) (nonempty : rules ≠ [])
      (parts : List.Forall₂ (fun item rule => read item = .ok rule) items rules) :
      Says members next (.all rules next)
  | any {items : List Document} {rules : List Rule}
      (absent : Members.get? "And" members = none)
      (found : Members.get? "Or" members = some (.array items)) (nonempty : rules ≠ [])
      (parts : List.Forall₂ (fun item rule => read item = .ok rule) items rules) :
      Says members next (.any rules next)
  | negation {item : Document} {rule : Rule}
      (absent : ∀ name, name ∈ ["And", "Or"] → Members.get? name members = none)
      (found : Members.get? "Not" members = some item) (part : read item = .ok rule) :
      Says members next (.negation rule next)
  | comparison {leaf : Comparison}
      (absent : ∀ name, name ∈ ["And", "Or", "Not"] → Members.get? name members = none)
      (parsed : readComparison members = .ok leaf) : Says members next (.comparison leaf next)

/-- A rule that was read is what the members of an object say. -/
theorem read_eq_ok {document : Document} {rule : Rule} (parsed : read document = .ok rule) :
    ∃ members next, document = .object members ∧ readNext members = .ok next ∧
      Says members next rule := by
  cases document with
  | object members =>
      rw [read, findRules_eq, findRules_eq, findRule_eq] at parsed
      obtain ⟨next, named, parsed⟩ := Outcome.bind_eq_ok.mp parsed
      refine ⟨members, next, rfl, named, ?_⟩
      cases conjunction : Members.get? "And" members with
      | some value =>
          rw [conjunction] at parsed
          obtain ⟨rules, rules_parsed, parsed⟩ := Outcome.bind_eq_ok.mp parsed
          cases parsed
          obtain ⟨items, rfl, nonempty, parts⟩ := readList_eq_ok rules_parsed
          exact .all conjunction nonempty parts
      | none =>
      cases disjunction : Members.get? "Or" members with
      | some value =>
          rw [conjunction, disjunction] at parsed
          obtain ⟨rules, rules_parsed, parsed⟩ := Outcome.bind_eq_ok.mp parsed
          cases parsed
          obtain ⟨items, rfl, nonempty, parts⟩ := readList_eq_ok rules_parsed
          exact .any conjunction disjunction nonempty parts
      | none =>
      cases negated : Members.get? "Not" members with
      | some item =>
          rw [conjunction, disjunction, negated] at parsed
          obtain ⟨rule, rule_parsed, parsed⟩ := Outcome.bind_eq_ok.mp parsed
          cases parsed
          refine .negation ?_ negated rule_parsed
          simp [conjunction, disjunction]
      | none =>
          rw [conjunction, disjunction, negated] at parsed
          obtain ⟨leaf, leaf_parsed, parsed⟩ := Outcome.bind_eq_ok.mp parsed
          cases parsed
          refine .comparison ?_ leaf_parsed
          simp [conjunction, disjunction, negated]
  | null => cases parsed
  | bool value => cases parsed
  | number value => cases parsed
  | string value => cases parsed
  | array items => cases parsed

@[simp] theorem get?_ofList_nextMember (name : String) (next : Option String) :
    Members.get? name (Members.ofList (nextMember next)) =
      if "Next" = name then next.map .string else none := by
  cases next with
  | none => simp [nextMember]
  | some next => simp [nextMember]

theorem readNext_of_get? {members : List (String × Document)} {next : Option String}
    (written : Members.get? "Next" members = next.map .string) :
    readNext members = .ok next := by
  cases next with
  | none => simp [readNext, written]
  | some next => simp [readNext, written]

theorem readAll_toDocuments {rules : List Rule}
    (recovered : ∀ rule, rule ∈ rules → read rule.toDocument = .ok rule) :
    readAll (toDocuments rules) = .ok rules := by
  induction rules with
  | nil => rfl
  | cons rule rest induction =>
      have head := recovered rule List.mem_cons_self
      have tail := induction fun part member => recovered part (List.mem_cons_of_mem _ member)
      rw [toDocuments, readAll, head, tail]
      rfl

theorem readList_toDocuments {combinator : String} {rules : List Rule}
    (nonempty : rules ≠ [])
    (recovered : ∀ rule, rule ∈ rules → read rule.toDocument = .ok rule) :
    readList combinator (.array (toDocuments rules)) = .ok rules := by
  have all_recovered := readAll_toDocuments recovered
  cases rules with
  | nil => exact absurd rfl nonempty
  | cons rule rest =>
      rw [toDocuments] at all_recovered ⊢
      rw [readList, all_recovered]
      simp

theorem readComparison_ofMembers {leaf : Comparison} (next : Option String)
    (recovered : readOperator leaf.operator.key leaf.operator.operand = .ok leaf.operator) :
    readComparison (Members.ofList
      (("Variable", .string leaf.path) ::
        (leaf.operator.key, leaf.operator.operand) :: nextMember next)) = .ok leaf := by
  have special := leaf.operator.key_not_special
  simp only [List.mem_cons, List.not_mem_nil, or_false, not_or] at special
  obtain ⟨_, _, _, not_variable, not_next, not_comment⟩ := special
  have kept : (!isReserved leaf.operator.key) = true := by
    simp [isReserved, not_variable, not_next, not_comment]
  have pair : (Members.insert leaf.operator.key leaf.operator.operand
      (Members.insert "Variable" (.string leaf.path) [])).filter
        (fun member => !isReserved member.1) =
          [(leaf.operator.key, leaf.operator.operand)] := by
    apply Members.filter_insert_of_kept (fun name => !isReserved name) kept
    exact Members.filter_insert_of_passed (fun name => !isReserved name) rfl _ []
  have operators : (Members.ofList
      (("Variable", Document.string leaf.path) ::
        (leaf.operator.key, leaf.operator.operand) :: nextMember next)).filter
          (fun member => !isReserved member.1) =
            [(leaf.operator.key, leaf.operator.operand)] := by
    cases next with
    | none => exact pair
    | some next =>
        rw [← pair]
        exact Members.filter_insert_of_passed (fun name => !isReserved name) rfl _ _
  have variable_found : Members.get? "Variable" (Members.ofList
      (("Variable", Document.string leaf.path) ::
        (leaf.operator.key, leaf.operator.operand) :: nextMember next)) =
          some (.string leaf.path) := by
    simp [not_variable]
  rw [readComparison, operators, variable_found]
  simp [recovered, Document.string?, bind, Except.bind]

theorem read_all {rules : List Rule} (next : Option String) (nonempty : rules ≠ [])
    (recovered : ∀ rule, rule ∈ rules → read rule.toDocument = .ok rule) :
    read (toDocument (.all rules next)) = .ok (.all rules next) := by
  rw [toDocument, Document.ofMembers, read, @readNext_of_get? _ next (by simp),
    findRules_eq]
  simp [readList_toDocuments nonempty recovered, bind, Except.bind]
  rfl

theorem read_any {rules : List Rule} (next : Option String) (nonempty : rules ≠ [])
    (recovered : ∀ rule, rule ∈ rules → read rule.toDocument = .ok rule) :
    read (toDocument (.any rules next)) = .ok (.any rules next) := by
  rw [toDocument, Document.ofMembers, read, @readNext_of_get? _ next (by simp),
    findRules_eq, findRules_eq]
  simp [readList_toDocuments nonempty recovered, bind, Except.bind]
  rfl

theorem read_negation {rule : Rule} (next : Option String)
    (recovered : read rule.toDocument = .ok rule) :
    read (toDocument (.negation rule next)) = .ok (.negation rule next) := by
  rw [toDocument, Document.ofMembers, read, @readNext_of_get? _ next (by simp),
    findRules_eq, findRules_eq, findRule_eq]
  simp [recovered, bind, Except.bind]
  rfl

theorem read_comparison {leaf : Comparison} (next : Option String)
    (recovered : readOperator leaf.operator.key leaf.operator.operand = .ok leaf.operator) :
    read (toDocument (.comparison leaf next)) = .ok (.comparison leaf next) := by
  have special := leaf.operator.key_not_special
  simp only [List.mem_cons, List.not_mem_nil, or_false, not_or] at special
  obtain ⟨not_and, not_or, not_not, _, not_next, _⟩ := special
  rw [toDocument, Document.ofMembers, read,
    @readNext_of_get? _ next (by simp [not_next]), findRules_eq, findRules_eq,
    findRule_eq, readComparison_ofMembers next recovered]
  simp [not_and, not_or, not_not, bind, Except.bind]
  rfl

/-- The rules that documents write: a combinator has rules to combine, and an operator is
one that a key with an operand announces. -/
inductive Expressible : Rule → Prop where
  | all {rules : List Rule} (next : Option String) (nonempty : rules ≠ [])
      (parts : ∀ rule, rule ∈ rules → Expressible rule) : Expressible (.all rules next)
  | any {rules : List Rule} (next : Option String) (nonempty : rules ≠ [])
      (parts : ∀ rule, rule ∈ rules → Expressible rule) : Expressible (.any rules next)
  | negation {rule : Rule} (next : Option String) (part : Expressible rule) :
      Expressible (.negation rule next)
  | comparison {leaf : Comparison} (next : Option String)
      (operator : leaf.operator.Expressible) : Expressible (.comparison leaf next)

theorem expressible_of_read (rule : Rule) :
    ∀ document, read document = .ok rule → rule.Expressible := by
  induction rule using induction_on_parts with
  | combine rule induction =>
      intro document parsed
      obtain ⟨members, next, rfl, _, said⟩ := read_eq_ok parsed
      cases said with
      | all found nonempty parts =>
          apply Expressible.all next nonempty
          intro part member
          obtain ⟨item, _, part_parsed⟩ := exists_left_of_forall₂ parts member
          exact induction part member item part_parsed
      | any absent found nonempty parts =>
          apply Expressible.any next nonempty
          intro part member
          obtain ⟨item, _, part_parsed⟩ := exists_left_of_forall₂ parts member
          exact induction part member item part_parsed
      | negation absent found part_parsed =>
          apply Expressible.negation next
          exact induction _ (List.mem_singleton_self _) _ part_parsed
      | comparison absent leaf_parsed =>
          exact .comparison next (readComparison_eq_ok leaf_parsed).1

theorem Expressible.read_toDocument {rule : Rule} (expressible : rule.Expressible) :
    read rule.toDocument = .ok rule := by
  induction expressible with
  | all next nonempty parts induction => exact read_all next nonempty induction
  | any next nonempty parts induction => exact read_any next nonempty induction
  | negation next part induction => exact read_negation next induction
  | comparison next operator => exact read_comparison next (readOperator_key_operand operator)

/-- A rule that was read is read again, as it is, from the document that writes it, and the
rules that are read are the expressible ones. -/
theorem recovered_from_written (rule : Rule) :
    (∀ document, read document = .ok rule → read rule.toDocument = .ok rule) ∧
      (rule.Expressible ↔ ∃ document, read document = .ok rule) := by
  refine ⟨?_, ?_, ?_⟩
  · intro document parsed
    exact (expressible_of_read rule document parsed).read_toDocument
  · intro expressible
    exact ⟨rule.toDocument, expressible.read_toDocument⟩
  · rintro ⟨document, parsed⟩
    exact expressible_of_read rule document parsed

/-- A rule with each of the combinators and each form of operand. -/
def intake : Rule :=
  .all
    [.negation (.comparison ⟨"$.name", .stringMatches
        ⟨"\x5c**", [.literal '*', .gap]⟩⟩ none) none,
      .any
        [.comparison ⟨"$.open", .compare .boolean .equals (.path "$.wanted")⟩ (some "Open"),
          .comparison ⟨"$.size", .compare .numeric .lessThanEquals
            (.literal (.ofNat 5))⟩ none,
          .comparison ⟨"$.size", .typeTest .isPresent false⟩ none] none]
    (some "Store")

/-- The same rule by hand, with comments. -/
def intakeDocument : Document :=
  .object
    [("And", .array
        [.object [("Comment", .string "no note"),
            ("Not", .object [("StringMatches", .string "\x5c**"),
              ("Variable", .string "$.name")])],
          .object [("Or", .array
            [.object [("BooleanEqualsPath", .string "$.wanted"), ("Next", .string "Open"),
                ("Variable", .string "$.open")],
              .object [("NumericLessThanEquals", .ofNat 5), ("Variable", .string "$.size")],
              .object [("Comment", .null), ("IsPresent", .bool false),
                ("Variable", .string "$.size")]])]]),
      ("Next", .string "Store")]

theorem intake_recovered :
    read intakeDocument = .ok intake ∧ read intake.toDocument = .ok intake := by
  have parsed : read intakeDocument = .ok intake := rfl
  exact ⟨parsed, (recovered_from_written intake).1 intakeDocument parsed⟩

end Rule

end StatesLanguage
