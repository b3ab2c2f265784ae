import Mathlib.Data.List.Basic
import StatesLanguage.Rule

/-!
# Rules inside rules

`Rule.walk` lists a rule together with all rules inside it, each with how deep it is.
`Rule.Inside` says without depths which rules those are, and `Rule.leaves` keeps the
comparisons of a walk in its order.
-/

namespace StatesLanguage

namespace Rule

/-- The rules that a rule combines. -/
def parts : Rule → List Rule
  | .all rules _ => rules
  | .any rules _ => rules
  | .negation rule _ => [rule]
  | .comparison _ _ => []

theorem sizeOf_part_lt {part rule : Rule} (member : part ∈ rule.parts) :
    sizeOf part < sizeOf rule := by
  cases rule with
  | all rules next =>
      have smaller : sizeOf part < sizeOf rules := List.sizeOf_lt_of_mem member
      rw [all.sizeOf_spec]
      omega
  | any rules next =>
      have smaller : sizeOf part < sizeOf rules := List.sizeOf_lt_of_mem member
      rw [any.sizeOf_spec]
      omega
  | negation inner next =>
      have same : part = inner := List.mem_singleton.mp member
      rw [same, negation.sizeOf_spec]
      omega
  | comparison leaf next => cases member

/-- What passes from the parts of a rule to the rule holds of every rule. -/
theorem induction_on_parts {motive : Rule → Prop}
    (combine : ∀ rule, (∀ part, part ∈ rule.parts → motive part) → motive rule)
    (rule : Rule) : motive rule :=
  combine rule fun part _member => induction_on_parts combine part
termination_by sizeOf rule
decreasing_by exact sizeOf_part_lt _member

/-- A rule stands inside another one, at any depth. -/
inductive Inside (rule : Rule) : Rule → Prop where
  | part {outer : Rule} (member : rule ∈ outer.parts) : Inside rule outer
  | deeper {middle outer : Rule} (member : middle ∈ outer.parts)
      (inside : Inside rule middle) : Inside rule outer

theorem walk_eq_cons (depth : Nat) (rule : Rule) :
    rule.walk depth = (depth, rule) :: walkAll (depth + 1) rule.parts := by
  cases rule with
  | all rules next => rfl
  | any rules next => rfl
  | negation rule next => simp [walk, walkAll, parts]
  | comparison leaf next => rfl

theorem mem_walkAll {depth : Nat} {entry : Nat × Rule} {rules : List Rule} :
    entry ∈ walkAll depth rules ↔ ∃ rule, rule ∈ rules ∧ entry ∈ rule.walk depth := by
  induction rules with
  | nil => simp [walkAll]
  | cons rule rest induction => simp [walkAll, induction]

theorem mem_walk {depth : Nat} {entry : Nat × Rule} {rule : Rule} :
    entry ∈ rule.walk depth ↔
      entry = (depth, rule) ∨ ∃ part, part ∈ rule.parts ∧ entry ∈ part.walk (depth + 1) := by
  rw [walk_eq_cons, List.mem_cons, mem_walkAll]

theorem inside_of_mem_walk (rule : Rule) :
    ∀ {depth : Nat} {entry : Nat × Rule}, entry ∈ rule.walk depth →
      entry = (depth, rule) ∨ depth < entry.1 ∧ entry.2.Inside rule := by
  induction rule using induction_on_parts with
  | combine rule induction =>
      intro depth entry found
      rcases mem_walk.mp found with same | ⟨part, member, found⟩
      · exact .inl same
      · rcases induction part member found with rfl | ⟨below, inside⟩
        · exact .inr ⟨Nat.lt_succ_self depth, .part member⟩
        · exact .inr ⟨Nat.lt_of_succ_lt below, .deeper member inside⟩

theorem Inside.mem_walk {rule outer : Rule} (inside : rule.Inside outer) (depth : Nat) :
    ∃ below, depth < below ∧ (below, rule) ∈ outer.walk depth := by
  induction inside generalizing depth with
  | part member =>
      refine ⟨depth + 1, Nat.lt_succ_self depth, Rule.mem_walk.mpr (.inr ⟨rule, member, ?_⟩)⟩
      exact Rule.mem_walk.mpr (.inl rfl)
  | deeper member inside induction =>
      obtain ⟨below, deeper, found⟩ := induction (depth + 1)
      exact ⟨below, Nat.lt_of_succ_lt deeper, Rule.mem_walk.mpr (.inr ⟨_, member, found⟩)⟩

/-- What a walk finds below its start are the rules inside. -/
theorem inside_iff_mem_walk {rule outer : Rule} {depth : Nat} :
    rule.Inside outer ↔ ∃ below, depth < below ∧ (below, rule) ∈ outer.walk depth := by
  constructor
  · intro inside
    exact inside.mem_walk depth
  · rintro ⟨below, deeper, found⟩
    rcases inside_of_mem_walk outer found with same | ⟨-, inside⟩
    · cases same
      exact (Nat.lt_irrefl depth deeper).elim
    · exact inside

def leaf? : Rule → Option Comparison
  | .comparison leaf _ => some leaf
  | _ => none

/-- The comparisons among the rules that a walk finds. -/
def leavesOf (walk : List (Nat × Rule)) : List Comparison :=
  walk.filterMap fun entry => entry.2.leaf?

/-- The comparisons of a rule, in the order of its walk. -/
def leaves (rule : Rule) : List Comparison :=
  leavesOf (rule.walk 0)

theorem leavesOf_walkAll (depth : Nat) (rules : List Rule) :
    leavesOf (walkAll depth rules) = rules.flatMap fun rule => leavesOf (rule.walk depth) := by
  induction rules with
  | nil => rfl
  | cons rule rest induction =>
      rw [walkAll, leavesOf, List.filterMap_append, List.flatMap_cons, ← induction]
      rfl

theorem leavesOf_walk (rule : Rule) : ∀ depth, leavesOf (rule.walk depth) =
    rule.leaf?.toList ++ rule.parts.flatMap leaves := by
  induction rule using induction_on_parts with
  | combine rule induction =>
      intro depth
      have below : leavesOf (walkAll (depth + 1) rule.parts) = rule.parts.flatMap leaves := by
        rw [leavesOf_walkAll]
        refine List.flatMap_congr fun part member => ?_
        rw [leaves, induction part member (depth + 1), induction part member 0]
      rw [walk_eq_cons, ← below]
      cases rule <;> rfl

@[simp] theorem leaves_all (rules : List Rule) (next : Option String) :
    (Rule.all rules next).leaves = rules.flatMap leaves :=
  leavesOf_walk _ 0

@[simp] theorem leaves_any (rules : List Rule) (next : Option String) :
    (Rule.any rules next).leaves = rules.flatMap leaves :=
  leavesOf_walk _ 0

@[simp] theorem leaves_negation (rule : Rule) (next : Option String) :
    (Rule.negation rule next).leaves = rule.leaves :=
  (leavesOf_walk _ 0).trans (by simp [leaf?, parts])

@[simp] theorem leaves_comparison (leaf : Comparison) (next : Option String) :
    (Rule.comparison leaf next).leaves = [leaf] :=
  leavesOf_walk _ 0

end Rule

end StatesLanguage
