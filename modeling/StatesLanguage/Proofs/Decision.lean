import Mathlib.Control.Monad.Basic
import StatesLanguage.Execution.Step
import StatesLanguage.Proofs.RuleWalk

/-!
# What rules decide

A rule says what its leaves say, taken together: `Rule.outcome` needs nothing but the
failure of the first leaf that fails and the truth values of the leaves.  Rules at the top
of a Choice state are cut off after the first one that is not false, which
`Choice.Decides` describes.
-/

namespace StatesLanguage

namespace Rule

namespace Comparison

def failure? (leaf : Comparison) (input context : Document) : Option Failure :=
  match leaf.evaluate input context with
  | .ok _ => none
  | .error failure => some failure

/-- Whether a comparison holds; one that fails does not. -/
def truth (leaf : Comparison) (input context : Document) : Bool :=
  match leaf.evaluate input context with
  | .ok truth => truth
  | .error _ => false

end Comparison

mutual

/-- The truth value of a rule, from those of its leaves. -/
def value (truth : Comparison → Bool) : Rule → Bool
  | .all rules _ => (values truth rules).all id
  | .any rules _ => (values truth rules).any id
  | .negation rule _ => !value truth rule
  | .comparison leaf _ => truth leaf

def values (truth : Comparison → Bool) : List Rule → List Bool
  | [] => []
  | rule :: rest => value truth rule :: values truth rest

end

/-- A failure if there is one, and else a result. -/
def settle {α : Type} (failure : Option Failure) (result : α) : Except Failure α :=
  match failure with
  | some failure => .error failure
  | none => .ok result

/-- The failure of the first leaf that fails. -/
def firstFailure? (input context : Document) (leaves : List Comparison) : Option Failure :=
  leaves.findSome? fun leaf => leaf.failure? input context

/-- What a rule says by its leaves: the failure of the first one that fails in the order
of the walk, or its truth value if none fails. -/
def outcome (input context : Document) (rule : Rule) : Except Failure Bool :=
  settle (firstFailure? input context rule.leaves)
    (rule.value fun leaf => leaf.truth input context)

theorem values_eq_map (truth : Comparison → Bool) (rules : List Rule) :
    values truth rules = rules.map (value truth) := by
  induction rules with
  | nil => rfl
  | cons rule rest induction => rw [values, induction, List.map_cons]

section

variable {input context : Document}

theorem settle_bind {α β γ : Type} (first second : Option Failure) (left : α) (right : β)
    (combine : α → β → γ) :
    (settle first left >>= fun left => settle second right >>= fun right =>
      Except.ok (combine left right)) = settle (first.or second) (combine left right) := by
  cases first with
  | some failure => rfl
  | none => cases second <;> rfl

theorem firstFailure?_append (left right : List Comparison) :
    firstFailure? input context (left ++ right) =
      (firstFailure? input context left).or (firstFailure? input context right) :=
  List.findSome?_append

theorem evaluateAll_eq (rules : List Rule)
    (each : ∀ rule, rule ∈ rules → evaluate input context rule = outcome input context rule) :
    evaluateAll input context rules =
      settle (firstFailure? input context (rules.flatMap leaves))
        (values (fun leaf => leaf.truth input context) rules) := by
  induction rules with
  | nil => rfl
  | cons rule rest induction =>
      have later := induction fun other member => each other (List.mem_cons_of_mem rule member)
      rw [evaluateAll, each rule List.mem_cons_self, later, List.flatMap_cons,
        firstFailure?_append, values]
      exact settle_bind _ _ _ _ List.cons

/-- A rule says what its leaves say, taken together. -/
theorem evaluate_eq_outcome (rule : Rule) :
    evaluate input context rule = outcome input context rule := by
  induction rule using induction_on_parts with
  | combine rule induction =>
      cases rule with
      | all rules next =>
          rw [evaluate, evaluateAll_eq rules induction, outcome, leaves_all]
          cases firstFailure? input context (rules.flatMap leaves) <;> rfl
      | any rules next =>
          rw [evaluate, evaluateAll_eq rules induction, outcome, leaves_any]
          cases firstFailure? input context (rules.flatMap leaves) <;> rfl
      | negation inner next =>
          rw [evaluate, induction inner List.mem_cons_self, outcome, outcome, leaves_negation]
          cases firstFailure? input context inner.leaves <;> rfl
      | comparison leaf next =>
          rw [evaluate, outcome, leaves_comparison, value]
          simp only [firstFailure?, List.findSome?_cons, Comparison.failure?, Comparison.truth]
          cases leaf.evaluate input context <;> rfl

/-- Each of some rules negated, with any next states. -/
def negations (named : Rule → Option String) (rules : List Rule) : List Rule :=
  rules.map fun rule => .negation rule (named rule)

theorem leaves_negations (named : Rule → Option String) (rules : List Rule) :
    (negations named rules).flatMap leaves = rules.flatMap leaves := by
  simp [negations, List.flatMap_map]

theorem values_negations (truth : Comparison → Bool) (named : Rule → Option String)
    (rules : List Rule) :
    values truth (negations named rules) = (values truth rules).map (!·) := by
  rw [values_eq_map, values_eq_map, negations, List.map_map, List.map_map]
  rfl

/-- Rules with the same leaves and truth values say the same. -/
theorem evaluate_congr {left right : Rule} (leaves : left.leaves = right.leaves)
    (value : ∀ truth, left.value truth = right.value truth) :
    evaluate input context left = evaluate input context right := by
  rw [evaluate_eq_outcome, evaluate_eq_outcome, outcome, outcome, leaves, value]

theorem evaluate_negation_all (named : Rule → Option String) (rules : List Rule)
    (inner outer next : Option String) :
    evaluate input context (.negation (.all rules inner) outer) =
      evaluate input context (.any (negations named rules) next) := by
  apply evaluate_congr
  · rw [leaves_negation, leaves_all, leaves_any, leaves_negations]
  · intro truth
    rw [value, value, value, values_negations, List.any_map, List.not_all_eq_any_not]
    rfl

theorem evaluate_negation_any (named : Rule → Option String) (rules : List Rule)
    (inner outer next : Option String) :
    evaluate input context (.negation (.any rules inner) outer) =
      evaluate input context (.all (negations named rules) next) := by
  apply evaluate_congr
  · rw [leaves_negation, leaves_all, leaves_any, leaves_negations]
  · intro truth
    rw [value, value, value, values_negations, List.all_map, List.not_any_eq_all_not]
    rfl

theorem evaluate_negation_negation (rule : Rule) (inner outer : Option String) :
    evaluate input context (.negation (.negation rule inner) outer) =
      evaluate input context rule := by
  apply evaluate_congr
  · rw [leaves_negation, leaves_negation]
  · intro truth
    rw [value, value, Bool.not_not]

end

end Rule

namespace Choice

/-- What a Choice state decides, from what its rules say. -/
inductive Decides (name : String) (branching : Choice) (input context : Document) :
    Except Failure String → Prop where
  | holds {before after : List Rule} {rule : Rule} {next : String}
      (split : branching.rules = before ++ rule :: after)
      (untrue : ∀ earlier, earlier ∈ before →
        Rule.evaluate input context earlier = .ok false)
      (holds : Rule.evaluate input context rule = .ok true)
      (goes : rule.next = some next) : Decides name branching input context (.ok next)
  | fails {before after : List Rule} {rule : Rule} {failure : Failure}
      (split : branching.rules = before ++ rule :: after)
      (untrue : ∀ earlier, earlier ∈ before →
        Rule.evaluate input context earlier = .ok false)
      (fails : Rule.evaluate input context rule = .error failure) :
      Decides name branching input context (.error failure)
  | default {next : String}
      (untrue : ∀ rule, rule ∈ branching.rules →
        Rule.evaluate input context rule = .ok false)
      (named : branching.default = some next) :
      Decides name branching input context (.ok next)
  | unmatched
      (untrue : ∀ rule, rule ∈ branching.rules →
        Rule.evaluate input context rule = .ok false)
      (without : branching.default = none) :
      Decides name branching input context (.error (.noChoiceMatched name))

section

variable {name : String} {branching : Choice} {input context : Document}

theorem firstMatch?_append {before : List Rule}
    (untrue : ∀ earlier, earlier ∈ before →
      Rule.evaluate input context earlier = .ok false) (rest : List Rule) :
    firstMatch? input context (before ++ rest) = firstMatch? input context rest := by
  induction before with
  | nil => rfl
  | cons rule before induction =>
      have later := induction fun earlier member =>
        untrue earlier (List.mem_cons_of_mem rule member)
      rw [List.cons_append, firstMatch?, untrue rule List.mem_cons_self]
      exact later

theorem firstMatch?_untrue {rules : List Rule}
    (untrue : ∀ rule, rule ∈ rules → Rule.evaluate input context rule = .ok false) :
    firstMatch? input context rules = .ok none := by
  have passed := firstMatch?_append untrue []
  rwa [List.append_nil] at passed

theorem Decides.choose {outcome : Except Failure String}
    (decides : branching.Decides name input context outcome) :
    branching.choose name input context = outcome := by
  cases decides with
  | holds split untrue holds goes =>
      rw [Choice.choose, split, firstMatch?_append untrue, firstMatch?, holds]
      simp [bind, Except.bind, goes, pure, Except.pure]
  | fails split untrue fails =>
      rw [Choice.choose, split, firstMatch?_append untrue, firstMatch?, fails]
      rfl
  | default untrue named =>
      rw [Choice.choose, firstMatch?_untrue untrue]
      simp [bind, Except.bind, named, pure, Except.pure]
  | unmatched untrue without =>
      rw [Choice.choose, firstMatch?_untrue untrue]
      simp [bind, Except.bind, without]

/-- Either all rules are false, or one is the first that is not. -/
theorem untrue_or_first (input context : Document) (rules : List Rule) :
    (∀ rule, rule ∈ rules → Rule.evaluate input context rule = .ok false) ∨
      ∃ before rule after, rules = before ++ rule :: after ∧
        (∀ earlier, earlier ∈ before → Rule.evaluate input context earlier = .ok false) ∧
        Rule.evaluate input context rule ≠ .ok false := by
  induction rules with
  | nil =>
      left
      intro rule member
      cases member
  | cons rule rest induction =>
      by_cases untrue : Rule.evaluate input context rule = .ok false
      · rcases induction with all | ⟨before, first, after, split, earlier, decisive⟩
        · left
          intro other member
          rcases List.mem_cons.mp member with rfl | later
          · exact untrue
          · exact all other later
        · right
          refine ⟨rule :: before, first, after, by rw [split, List.cons_append], ?_, decisive⟩
          intro other member
          rcases List.mem_cons.mp member with rfl | later
          · exact untrue
          · exact earlier other later
      · right
        exact ⟨[], rule, rest, rfl, by simp, untrue⟩

theorem exists_decides (named : ∀ rule, rule ∈ branching.rules → rule.next.isSome = true) :
    ∃ outcome, branching.Decides name input context outcome := by
  rcases untrue_or_first input context branching.rules with
    untrue | ⟨before, rule, after, split, untrue, decisive⟩
  · cases default : branching.default with
    | some next => exact ⟨_, .default untrue default⟩
    | none => exact ⟨_, .unmatched untrue default⟩
  · cases evaluated : Rule.evaluate input context rule with
    | error failure => exact ⟨_, .fails split untrue evaluated⟩
    | ok truth =>
        have holds : truth = true := by
          cases truth with
          | true => rfl
          | false => exact (decisive evaluated).elim
        subst holds
        have member : rule ∈ branching.rules := by simp [split]
        obtain ⟨next, goes⟩ := Option.isSome_iff_exists.mp (named rule member)
        exact ⟨_, .holds split untrue evaluated goes⟩

theorem choose_eq_iff_decides
    (named : ∀ rule, rule ∈ branching.rules → rule.next.isSome = true)
    {outcome : Except Failure String} :
    branching.choose name input context = outcome ↔
      branching.Decides name input context outcome := by
  constructor
  · intro chosen
    obtain ⟨decided, decides⟩ := @exists_decides name branching input context named
    rwa [← chosen, decides.choose]
  · exact Decides.choose

end

end Choice

/-- The semantics of rules and of Choice states.  A rule says what its leaves say, taken
together; hence De Morgan's laws and double negation, failures included.  A Choice state
whose rules all name a next state decides by the first of them that is not false. -/
theorem Rule.evaluation_laws (input context : Document) :
    (∀ rule : Rule, evaluate input context rule = outcome input context rule) ∧
    (∀ rules named inner outer next,
      evaluate input context (.negation (.all rules inner) outer) =
        evaluate input context (.any (negations named rules) next)) ∧
    (∀ rules named inner outer next,
      evaluate input context (.negation (.any rules inner) outer) =
        evaluate input context (.all (negations named rules) next)) ∧
    (∀ rule inner outer, evaluate input context (.negation (.negation rule inner) outer) =
      evaluate input context rule) ∧
    (∀ (name : String) (branching : Choice),
      (∀ rule, rule ∈ branching.rules → rule.next.isSome = true) →
        ∀ outcome, branching.choose name input context = outcome ↔
          branching.Decides name input context outcome) := by
  refine ⟨evaluate_eq_outcome, ?_, ?_, evaluate_negation_negation, ?_⟩
  · intro rules named inner outer next
    exact evaluate_negation_all named rules inner outer next
  · intro rules named inner outer next
    exact evaluate_negation_any named rules inner outer next
  · intro name branching named outcome
    exact Choice.choose_eq_iff_decides named

/-- Its second rule looks for a member that need not be there. -/
def Choice.parcel : Choice where
  rules :=
    [.negation (.comparison ⟨"$.size", .typeTest .isPresent true⟩ none) (some "Empty"),
      .any
        [.comparison ⟨"$.size", .typeTest .isNumeric true⟩ none,
          .comparison ⟨"$.weight", .typeTest .isNumeric true⟩ none] (some "Measured"),
      .comparison ⟨"$.size", .typeTest .isNumeric true⟩ (some "Boxed")]
  default := some "Other"
  exit := ⟨none, false⟩

theorem Choice.parcel_evaluation :
    (∀ rule, rule ∈ parcel.rules → rule.next.isSome = true) ∧
      parcel.choose "Pack" (.object [("size", .ofNat 3)]) .null =
        .error (.invalidPath "$.weight (no field 'weight')") := by
  have named : ∀ rule, rule ∈ parcel.rules → rule.next.isSome = true := by
    decide +kernel
  have split : parcel.rules =
      parcel.rules.take 1 ++ parcel.rules[1] :: parcel.rules.drop 2 := rfl
  have untrue : ∀ earlier, earlier ∈ parcel.rules.take 1 →
      Rule.evaluate (.object [("size", .ofNat 3)]) .null earlier = .ok false := by
    decide +kernel
  have fails : Rule.evaluate (.object [("size", .ofNat 3)]) .null parcel.rules[1] =
      .error (.invalidPath "$.weight (no field 'weight')") := by
    decide +kernel
  have decides := (Rule.evaluation_laws (.object [("size", .ofNat 3)]) .null).2.2.2.2
    "Pack" parcel named
  exact ⟨named, (decides _).mpr (.fails split untrue fails)⟩

end StatesLanguage
