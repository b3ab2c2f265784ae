import StatesLanguage.Proofs.Outcome
import StatesLanguage.Template

/-!
# The two forms of a field

A field of a template holds a path or a call either under its own name or under its name with
the ending that marks it as dynamic.  The plain form looks for the whole shape of a call, the
dynamic one only for its first word.  They agree all the same, since a call that has not the
whole shape has no value.
-/

namespace StatesLanguage

open Outcome

theorem Intrinsic.ofName_of_missing {name : String} (missing : ofName? name = none) :
    ofName name = .error (.invalidFunction ("unknown intrinsic 'States." ++ name ++ "'")) := by
  rw [ofName, missing]

namespace Call

/-- A text that is no call of a function that exists has no value, and it fails in the same way
whatever the data is. -/
theorem exists_refusal_of_not_intrinsic {text : String} (unknown : isIntrinsic text = false) :
    ∃ detail, ∀ document context,
      evaluate document text context = .error (.invalidFunction detail) := by
  cases reading : read? text with
  | none =>
      refine ⟨"malformed call: " ++ text, fun document context => ?_⟩
      rw [evaluate, reading]
  | some call =>
      rw [isIntrinsic, reading] at unknown
      have missing : Intrinsic.ofName? call.name = none := by simpa using unknown
      refine ⟨"unknown intrinsic 'States." ++ call.name ++ "'", fun document context => ?_⟩
      rw [evaluate, reading]
      dsimp only
      rw [Intrinsic.ofName_of_missing missing]
      rfl

/-- A call starts with the word before its point. -/
theorem prefix_of_isIntrinsic {text : String} (known : isIntrinsic text = true) :
    "States.".toList <+: text.toList := by
  rw [isIntrinsic, read?] at known
  split at known
  · rename_i call reading
    split at reading
    · rename_i rest spelled
      rw [spelled]
      exact ⟨rest, rfl⟩
    · cases reading
  · cases known

end Call

namespace Template

theorem startsLikeCall_iff {text : String} :
    startsLikeCall text = true ↔ "States.".toList <+: text.toList := by
  rw [startsLikeCall, List.prefix_iff_eq_take, decide_eq_true_iff, eq_comm]
  rfl

/-- The ending of a name that marks its member as dynamic. -/
def IsDynamicName (name : String) : Prop :=
  ∃ plain, name = plain ++ ".$"

theorem dynamicName?_append (plain : String) : dynamicName? (plain ++ ".$") = some plain := by
  simp [dynamicName?]

theorem dynamicName?_eq_some_iff {name plain : String} :
    dynamicName? name = some plain ↔ name = plain ++ ".$" := by
  constructor
  · intro found
    rw [dynamicName?] at found
    split at found
    · rename_i rest ended
      cases found
      have spelled := congrArg List.reverse ended
      rw [List.reverse_reverse, List.reverse_cons, List.reverse_cons] at spelled
      rw [← String.toList_inj, spelled]
      simp
    · cases found
  · rintro rfl
    exact dynamicName?_append plain

theorem dynamicName?_eq_none_iff {name : String} :
    dynamicName? name = none ↔ ¬ IsDynamicName name := by
  constructor
  · rintro absent ⟨plain, rfl⟩
    rw [dynamicName?_append] at absent
    cases absent
  · intro plain
    cases found : dynamicName? name with
    | none => rfl
    | some other => exact absurd ⟨other, dynamicName?_eq_some_iff.mp found⟩ plain

instance (name : String) : Decidable (IsDynamicName name) :=
  decidable_of_iff (dynamicName? name ≠ none) (by
    rw [ne_eq, dynamicName?_eq_none_iff, Classical.not_not])

section

variable {name text : String} (input context : Document)

theorem evaluate_plain_field (plain : ¬ IsDynamicName name) (value : Document) :
    evaluate (.object [(name, value)]) input context =
      (evaluate value input context).map fun result => .object [(name, result)] := by
  rw [evaluate, evaluateMembers, dynamicName?_eq_none_iff.mpr plain]
  cases evaluate value input context with
  | error failure => rfl
  | ok result => rfl

theorem evaluate_dynamic_field (value : Document) :
    evaluate (.object [(name ++ ".$", value)]) input context =
      (evaluateDynamic (name ++ ".$") value input context).map fun result =>
        .object [(name, result)] := by
  rw [evaluate, evaluateMembers, dynamicName?_append]
  dsimp only
  cases evaluateDynamic (name ++ ".$") value input context with
  | error failure => rfl
  | ok result => rfl

/-- What is recognised as a path or a call has its value in either form. -/
theorem evaluateDynamic_of_recognised (field : String)
    (recognised : Path.isPath text = true ∨ Call.isIntrinsic text = true) :
    evaluateDynamic field (.string text) input context =
      evaluateString text input context := by
  rw [evaluateDynamic, evaluateString]
  split
  · rfl
  · rename_i pathless
    have known := recognised.resolve_left pathless
    rw [if_pos (startsLikeCall_iff.mpr (Call.prefix_of_isIntrinsic known)), if_pos known]

theorem evaluateString_of_unrecognised (pathless : Path.isPath text = false)
    (unknown : Call.isIntrinsic text = false) :
    evaluateString text input context = .ok (.string text) := by
  rw [evaluateString, pathless, unknown]
  rfl

end

/-- A path or a call has one value in both forms of a field, or fails there in the same way.
Any other text stands for itself in the plain form and fails in the dynamic one, as a call if
it starts like one.  What is not recognised as a call has no value as one. -/
theorem field_forms_agree {name : String} (plain : ¬ IsDynamicName name) (text : String)
    (input context : Document) :
    (Path.isPath text = true ∨ Call.isIntrinsic text = true →
      evaluate (.object [(name ++ ".$", .string text)]) input context =
        evaluate (.object [(name, .string text)]) input context) ∧
    (Path.isPath text = false → Call.isIntrinsic text = false →
      evaluate (.object [(name, .string text)]) input context =
        .ok (.object [(name, .string text)]) ∧
      ("States.".toList <+: text.toList →
        ∃ detail, evaluate (.object [(name ++ ".$", .string text)]) input context =
          .error (.invalidFunction detail)) ∧
      (¬ "States.".toList <+: text.toList →
        ∃ detail, evaluate (.object [(name ++ ".$", .string text)]) input context =
          .error (.invalidPath detail))) ∧
    (Call.isIntrinsic text = false →
      ∃ detail, ∀ document context,
        Call.evaluate document text context = .error (.invalidFunction detail)) := by
  rw [evaluate_plain_field input context plain, evaluate_dynamic_field, evaluate]
  refine ⟨?_, ?_, Call.exists_refusal_of_not_intrinsic⟩
  · intro recognised
    rw [evaluateDynamic_of_recognised input context _ recognised]
  · intro pathless unknown
    rw [evaluateString_of_unrecognised input context pathless unknown]
    refine ⟨rfl, ?_, ?_⟩
    · intro begins
      obtain ⟨detail, refused⟩ := Call.exists_refusal_of_not_intrinsic unknown
      refine ⟨detail, ?_⟩
      rw [evaluateDynamic, pathless, startsLikeCall_iff.mpr begins, refused]
      rfl
    · intro other
      have unlike : startsLikeCall text = false :=
        Bool.eq_false_iff.mpr (mt startsLikeCall_iff.mp other)
      rw [evaluateDynamic, pathless, unlike]
      exact ⟨_, rfl⟩

/-- A call with a blank behind it is none. -/
theorem trailing_blank_field_forms :
    ¬ IsDynamicName "sum" ∧ Path.isPath "States.Array(1) " = false ∧
      Call.isIntrinsic "States.Array(1) " = false ∧
      "States.".toList <+: "States.Array(1) ".toList ∧
      evaluate (.object [("sum", .string "States.Array(1) ")]) .null .null =
        .ok (.object [("sum", .string "States.Array(1) ")]) ∧
      ∃ detail, evaluate (.object [("sum" ++ ".$", .string "States.Array(1) ")]) .null .null =
        .error (.invalidFunction detail) := by
  have plain : ¬ IsDynamicName "sum" := dynamicName?_eq_none_iff.mp (by decide +kernel)
  have pathless : Path.isPath "States.Array(1) " = false := by decide +kernel
  have unknown : Call.isIntrinsic "States.Array(1) " = false := by decide +kernel
  have begins : "States.".toList <+: "States.Array(1) ".toList := by decide +kernel
  obtain ⟨itself, fails, _⟩ :=
    (field_forms_agree plain "States.Array(1) " .null .null).2.1 pathless unknown
  exact ⟨plain, pathless, unknown, begins, itself, fails begins⟩

end Template

end StatesLanguage
