import StatesLanguage.Proofs.Order
import StatesLanguage.Proofs.RuleNotation

/-!
# What rules keep of their documents

Of a comparison everything but the comment is kept.  Of a rule with a combinator only the
combinator and the name of the next state are kept, and what else stands beside them is
neither read nor refused.  The main theorem says when nothing but comments is lost: exactly
if no rule mixes a combinator with anything else.
-/

namespace StatesLanguage

namespace Rule

mutual

/-- The document of a rule without the comments of the rules in it. -/
def uncommented : Document → Document
  | .object members => .object (uncommentedMembers members)
  | other => other

def uncommentedMembers : List (String × Document) → List (String × Document)
  | [] => []
  | (name, value) :: rest =>
      if name = "Comment" then uncommentedMembers rest
      else (name, uncommentedUnder name value) :: uncommentedMembers rest

/-- What stands under a name: rules if it is a combinator. -/
def uncommentedUnder (name : String) : Document → Document
  | .array items =>
      if name = "And" ∨ name = "Or" then .array (uncommentedAll items) else .array items
  | .object members =>
      if name = "Not" then .object (uncommentedMembers members) else .object members
  | other => other

def uncommentedAll : List Document → List Document
  | [] => []
  | item :: rest => uncommented item :: uncommentedAll rest

end

theorem uncommentedUnder_of_plain {name : String} (plain : name ∉ ["And", "Or", "Not"])
    (value : Document) : uncommentedUnder name value = value := by
  simp only [List.mem_cons, List.not_mem_nil, or_false, not_or] at plain
  obtain ⟨not_and, not_or, not_not⟩ := plain
  cases value with
  | array items => simp [uncommentedUnder, not_and, not_or]
  | object members => simp [uncommentedUnder, not_not]
  | null => rfl
  | bool value => rfl
  | number value => rfl
  | string value => rfl

theorem get?_uncommentedMembers (name : String) (members : List (String × Document)) :
    Members.get? name (uncommentedMembers members) =
      if name = "Comment" then none
      else (Members.get? name members).map (uncommentedUnder name) := by
  induction members with
  | nil => simp [uncommentedMembers, Members.get?]
  | cons member rest induction =>
      obtain ⟨other, value⟩ := member
      rw [uncommentedMembers]
      by_cases comment : other = "Comment"
      · rw [if_pos comment, induction, Members.get?]
        by_cases same : other = name
        · simp [← same, comment]
        · simp [same]
      · rw [if_neg comment, Members.get?, Members.get?, induction]
        by_cases same : other = name
        · simp [← same, comment]
        · simp [same]

theorem ascending_uncommentedMembers {members : List (String × Document)}
    (ascending : Members.Ascending members) :
    Members.Ascending (uncommentedMembers members) := by
  have kept : List.Sublist (Members.names (uncommentedMembers members))
      (Members.names members) := by
    clear ascending
    induction members with
    | nil => exact List.Sublist.slnil
    | cons member rest induction =>
        obtain ⟨name, value⟩ := member
        rw [uncommentedMembers]
        split
        · exact induction.cons name
        · exact induction.cons_cons name
  exact List.Pairwise.sublist kept ascending

/-- Members in order that were set one after another are the uncommented ones exactly if
both have the same values. -/
theorem ofMembers_eq_uncommented_iff {written members : List (String × Document)}
    (ascending : Members.Ascending members) :
    Document.ofMembers written = uncommented (.object members) ↔
      ∀ name, Members.get? name (Members.ofList written) =
        if name = "Comment" then none
        else (Members.get? name members).map (uncommentedUnder name) := by
  rw [Document.ofMembers, uncommented, Document.object.injEq]
  constructor
  · intro same name
    rw [same, get?_uncommentedMembers]
  · intro same
    apply (Members.ascending_ofList written).ext (ascending_uncommentedMembers ascending)
    intro name
    rw [same, get?_uncommentedMembers]

theorem get?_next_of_readNext {members : List (String × Document)} {next : Option String}
    (named : readNext members = .ok next) :
    Members.get? "Next" members = next.map .string := by
  unfold readNext at named
  split at named
  · rename_i absent
    cases named
    exact absent
  · rename_i found
    cases named
    exact found
  · cases named

/-- A rule with a combinator keeps its members exactly if it keeps what it combines and
nothing stands beside them. -/
theorem combination_kept_iff {combinator : String} {members : List (String × Document)}
    {value written : Document} {next : Option String}
    (combines : combinator ∈ ["And", "Or", "Not"]) (ascending : Members.Ascending members)
    (found : Members.get? combinator members = some value)
    (named : readNext members = .ok next) :
    Document.ofMembers ((combinator, written) :: nextMember next) =
        uncommented (.object members) ↔
      written = uncommentedUnder combinator value ∧
        ∀ name, name ∈ Members.names members → name ∈ [combinator, "Next", "Comment"] := by
  have next_found := get?_next_of_readNext named
  have not_next : combinator ≠ "Next" := by
    rintro rfl
    simp at combines
  have not_comment : combinator ≠ "Comment" := by
    rintro rfl
    simp at combines
  rw [ofMembers_eq_uncommented_iff ascending]
  constructor
  · intro same
    constructor
    · have here := same combinator
      simpa [found, not_next, Ne.symm not_next, not_comment] using here
    · intro name present
      by_contra other
      simp only [List.mem_cons, List.not_mem_nil, or_false, not_or] at other
      obtain ⟨differs, no_next, no_comment⟩ := other
      have here := same name
      simp only [Members.get?_ofList_cons, get?_ofList_nextMember, if_neg (Ne.symm differs),
        if_neg (Ne.symm no_next), if_neg no_comment, Option.or_none] at here
      have absent := Option.map_eq_none_iff.mp here.symm
      exact Members.get?_eq_none_iff.mp absent present
  · rintro ⟨rfl, alone⟩ name
    by_cases is_combinator : name = combinator
    · subst is_combinator
      simp [found, Ne.symm not_next, not_comment]
    · by_cases is_next : name = "Next"
      · subst is_next
        have plain : "Next" ∉ ["And", "Or", "Not"] := by decide
        cases next with
        | none => simp [next_found, not_next]
        | some next => simp [next_found, uncommentedUnder_of_plain plain]
      · by_cases is_comment : name = "Comment"
        · subst is_comment
          simp [not_comment]
        · have absent : Members.get? name members = none := by
            apply Members.get?_eq_none_iff.mpr
            intro present
            simpa [is_combinator, is_next, is_comment] using alone name present
          simp [absent, Ne.symm is_combinator, Ne.symm is_next, is_comment]

/-- A comparison keeps all its members but the comment. -/
theorem comparison_kept {members : List (String × Document)} {leaf : Comparison}
    {next : Option String}
    (absent : ∀ name, name ∈ ["And", "Or", "Not"] → Members.get? name members = none)
    (ascending : Members.Ascending members) (named : readNext members = .ok next)
    (parsed : readComparison members = .ok leaf) :
    toDocument (.comparison leaf next) = uncommented (.object members) := by
  have next_found := get?_next_of_readNext named
  obtain ⟨_, variable_found, operators⟩ := readComparison_eq_ok parsed
  have special := leaf.operator.key_not_special
  simp only [List.mem_cons, List.not_mem_nil, or_false, not_or] at special
  obtain ⟨_, _, _, not_variable, not_next, not_comment⟩ := special
  have untouched : ∀ name, (Members.get? name members).map (uncommentedUnder name) =
      Members.get? name members := by
    intro name
    by_cases combines : name ∈ ["And", "Or", "Not"]
    · rw [absent name combines, Option.map_none]
    · have same : uncommentedUnder name = id := funext (uncommentedUnder_of_plain combines)
      rw [same, Option.map_id, id]
  have operator_found : ∀ name, isReserved name = false → Members.get? name members =
      if leaf.operator.key = name then some leaf.operator.operand else none := by
    intro name free
    rw [← Members.get?_filter_of_kept (fun name => !isReserved name) (by simp [free]),
      operators]
    rfl
  rw [toDocument, ofMembers_eq_uncommented_iff ascending]
  intro name
  rw [untouched]
  by_cases is_variable : name = "Variable"
  · subst is_variable
    simp [variable_found, not_variable]
  · by_cases is_next : name = "Next"
    · subst is_next
      cases next with
      | none => simp [next_found, not_next]
      | some next => simp [next_found]
    · by_cases is_comment : name = "Comment"
      · subst is_comment
        simp [not_comment]
      · have free : isReserved name = false := by
          simp [isReserved, is_variable, is_next, is_comment]
        rw [operator_found name free]
        simp [Ne.symm is_variable, Ne.symm is_next, is_comment]

/-- The documents of the rules under a combinator. -/
def partsUnder (combinator : String) (value : Document) : List Document :=
  if combinator = "Not" then [value] else value.array?.getD []

/-- Nothing but the name of the next state and a comment stands beside a combinator, in a
rule and in all rules in it. -/
inductive Unmixed : Document → Prop where
  | intro {members : List (String × Document)}
      (alone : ∀ combinator, combinator ∈ ["And", "Or", "Not"] →
        combinator ∈ Members.names members →
          ∀ name, name ∈ Members.names members → name ∈ [combinator, "Next", "Comment"])
      (parts : ∀ combinator value, combinator ∈ ["And", "Or", "Not"] →
        Members.get? combinator members = some value →
          ∀ part, part ∈ partsUnder combinator value → Unmixed part) :
      Unmixed (.object members)

theorem unmixed_iff_of_combinator {combinator : String} {members : List (String × Document)}
    {value : Document} (combines : combinator ∈ ["And", "Or", "Not"])
    (found : Members.get? combinator members = some value) :
    Unmixed (.object members) ↔
      (∀ part, part ∈ partsUnder combinator value → Unmixed part) ∧
        ∀ name, name ∈ Members.names members → name ∈ [combinator, "Next", "Comment"] := by
  have present : combinator ∈ Members.names members := by
    by_contra missing
    rw [Members.get?_eq_none_iff.mpr missing] at found
    cases found
  constructor
  · rintro ⟨alone, parts⟩
    exact ⟨parts combinator value combines found, alone combinator combines present⟩
  · rintro ⟨parts, alone⟩
    have only : ∀ other, other ∈ ["And", "Or", "Not"] → other ∈ Members.names members →
        other = combinator := by
      intro other other_combines other_present
      have among := alone other other_present
      simp only [List.mem_cons, List.not_mem_nil, or_false] at among other_combines
      rcases among with same | rfl | rfl
      · exact same
      · simp at other_combines
      · simp at other_combines
    constructor
    · intro other other_combines other_present
      rw [only other other_combines other_present]
      exact alone
    · intro other item other_combines other_found
      have other_present : other ∈ Members.names members := by
        by_contra missing
        rw [Members.get?_eq_none_iff.mpr missing] at other_found
        cases other_found
      have same := only other other_combines other_present
      subst same
      rw [found] at other_found
      cases other_found
      exact parts

theorem unmixed_of_comparison {members : List (String × Document)}
    (absent : ∀ name, name ∈ ["And", "Or", "Not"] → Members.get? name members = none) :
    Unmixed (.object members) := by
  constructor
  · intro combinator combines present
    exact absurd present (Members.get?_eq_none_iff.mp (absent combinator combines))
  · intro combinator value combines found
    rw [absent combinator combines] at found
    cases found

theorem toDocuments_eq_uncommentedAll_iff {items : List Document} {rules : List Rule}
    (parts : List.Forall₂ (fun item rule => read item = .ok rule) items rules)
    (each : ∀ rule, rule ∈ rules → ∀ item, item ∈ items → read item = .ok rule →
      (rule.toDocument = uncommented item ↔ Unmixed item)) :
    toDocuments rules = uncommentedAll items ↔ ∀ item, item ∈ items → Unmixed item := by
  induction parts with
  | nil => simp [toDocuments, uncommentedAll]
  | @cons item rule items rules parsed others induction =>
      have head := each rule List.mem_cons_self item List.mem_cons_self parsed
      have tail := induction fun part part_member other other_member =>
        each part (List.mem_cons_of_mem _ part_member) other
          (List.mem_cons_of_mem _ other_member)
      rw [toDocuments, uncommentedAll, List.cons.injEq, head, tail, List.forall_mem_cons]

theorem uncommentedUnder_not {item : Document} {rule : Rule} (parsed : read item = .ok rule) :
    uncommentedUnder "Not" item = uncommented item := by
  obtain ⟨members, _, rfl, _, _⟩ := read_eq_ok parsed
  simp [uncommentedUnder, uncommented]

/-- A rule that was read keeps all of its document but the comments exactly if nothing
stands beside a combinator in it. -/
theorem toDocument_eq_uncommented_iff {document : Document} {rule : Rule}
    (ordered : document.Ordered) (parsed : read document = .ok rule) :
    rule.toDocument = uncommented document ↔ Unmixed document := by
  induction rule using induction_on_parts generalizing document with
  | combine rule induction =>
      obtain ⟨members, next, rfl, named, said⟩ := read_eq_ok parsed
      obtain ⟨ascending, members_ordered⟩ := Document.ordered_object_iff.mp ordered
      have listed : ∀ {name items}, Members.get? name members = some (.array items) →
          ∀ item, item ∈ items → item.Ordered := by
        intro name items found
        exact Document.ordered_array_iff.mp
          (members_ordered _ (Members.mem_of_get? found))
      cases said with
      | all found nonempty parts =>
          rw [toDocument, combination_kept_iff (by decide) ascending found named,
            unmixed_iff_of_combinator (by decide) found]
          apply and_congr_left
          intro _
          have lists := toDocuments_eq_uncommentedAll_iff parts fun part member item present =>
            induction part member (listed found item present)
          simpa [uncommentedUnder, partsUnder, Document.array?] using lists
      | any absent found nonempty parts =>
          rw [toDocument, combination_kept_iff (by decide) ascending found named,
            unmixed_iff_of_combinator (by decide) found]
          apply and_congr_left
          intro _
          have lists := toDocuments_eq_uncommentedAll_iff parts fun part member item present =>
            induction part member (listed found item present)
          simpa [uncommentedUnder, partsUnder, Document.array?] using lists
      | negation absent found part_parsed =>
          rw [toDocument, combination_kept_iff (by decide) ascending found named,
            unmixed_iff_of_combinator (by decide) found]
          apply and_congr_left
          intro _
          have part_ordered := members_ordered _ (Members.mem_of_get? found)
          have inner := induction _ (List.mem_singleton_self _) part_ordered part_parsed
          simpa [uncommentedUnder_not part_parsed, partsUnder] using inner
      | comparison absent leaf_parsed =>
          have kept := comparison_kept absent ascending named leaf_parsed
          exact ⟨fun _ => unmixed_of_comparison absent, fun _ => kept⟩

theorem intake_unmixed :
    intakeDocument.Ordered ∧ read intakeDocument = .ok intake ∧ Unmixed intakeDocument := by
  have ordered : intakeDocument.Ordered := by
    simp [intakeDocument]
    decide +kernel
  have parsed : read intakeDocument = .ok intake := rfl
  have kept : intake.toDocument = uncommented intakeDocument := by
    decide +kernel
  exact ⟨ordered, parsed, (toDocument_eq_uncommented_iff ordered parsed).mp kept⟩

/-- A rule with a combinator, and beside it an operator that there is not. -/
def strayDocument : Document :=
  .object
    [("And", .array
        [.object [("IsPresent", .bool true), ("Variable", .string "$.a")]]),
      ("Next", .string "n"), ("StringContains", .string "x")]

/-- What is read of it. -/
def strayRule : Rule :=
  .all [.comparison ⟨"$.a", .typeTest .isPresent true⟩ none] (some "n")

/-- The operator that there is not is refused by itself and lost beside the combinator. -/
theorem stray_operator_lost :
    strayDocument.Ordered ∧ read strayDocument = .ok strayRule ∧
      readOperator "StringContains" (.string "x") =
        .error (.unsupportedOperator "StringContains") ∧
      strayRule.toDocument ≠ uncommented strayDocument := by
  refine ⟨?_, rfl, rfl, ?_⟩
  · simp [strayDocument]
    decide +kernel
  · decide +kernel

end Rule

end StatesLanguage
