import Mathlib.Data.String.Basic
import StatesLanguage.Proofs.Agreement
import StatesLanguage.Proofs.FieldForms
import StatesLanguage.Proofs.Order

/-!
# The structure of templates

A template is evaluated at its parts, the strings and the dynamic members, in the order of a
walk through it, and everything around them is kept.  `Template.parts` lists them, and
`Template.Yields` describes the value of a template by those of its items and members.
-/

namespace StatesLanguage

open Outcome

theorem split_of_forall₂ {α β : Type} {related : α → β → Prop} {items : List α}
    {before after : List β} {value : β}
    (pairs : List.Forall₂ related items (before ++ value :: after)) :
    ∃ earlier item later, items = earlier ++ item :: later ∧ related item value ∧
      List.Forall₂ related later after := by
  obtain ⟨item, later, own, rest, split⟩ :=
    List.forall₂_cons_right_iff.mp (List.forall₂_drop_append _ _ _ pairs)
  refine ⟨items.take before.length, item, later, ?_, own, rest⟩
  rw [← split, List.take_append_drop]

namespace Template

/-- The name of a member in the value of an object. -/
def plainName (name : String) : String :=
  (dynamicName? name).getD name

/-- The value of a member: that of what it holds, or of the path or call that it must hold. -/
def evaluateMember (member : String × Document) (input context : Document) :
    Except Failure Document :=
  match dynamicName? member.1 with
  | some _ => evaluateDynamic member.1 member.2 input context
  | none => evaluate member.2 input context

/-- A name stands before the one with the ending. -/
theorem lt_append_ending (name : String) : name < name ++ ".$" := by
  have longer : name.toList ++ [] < name.toList ++ ".$".toList :=
    List.append_left_lt (List.nil_lt_cons _ _)
  rwa [List.append_nil, ← String.toList_append, ← String.lt_iff_toList_lt] at longer

theorem plainName_append (name : String) : plainName (name ++ ".$") = name := by
  rw [plainName, dynamicName?_append]
  rfl

/-- Two names lead to a name: that with the ending, and the name itself if it has none. -/
theorem plainName_eq_iff {other name : String} :
    plainName other = name ↔ other = name ++ ".$" ∨ other = name ∧ ¬ IsDynamicName name := by
  rw [← dynamicName?_eq_some_iff, plainName]
  cases found : dynamicName? other with
  | some plain =>
      have dynamic : IsDynamicName other := ⟨plain, dynamicName?_eq_some_iff.mp found⟩
      constructor
      · rintro rfl
        exact .inl rfl
      · rintro (same | ⟨rfl, static⟩)
        · exact Option.some.inj same
        · exact absurd dynamic static
  | none =>
      have static := dynamicName?_eq_none_iff.mp found
      constructor
      · rintro rfl
        exact .inr ⟨rfl, static⟩
      · rintro (same | ⟨rfl, _⟩)
        · cases same
        · rfl

section

variable {input context : Document}

theorem evaluateMembers_cons (member : String × Document) (rest : List (String × Document)) :
    evaluateMembers (member :: rest) input context =
      evaluateMember member input context >>= fun value =>
        evaluateMembers rest input context >>= fun values =>
          .ok ((plainName member.1, value) :: values) := by
  rw [evaluateMembers, evaluateMember, plainName]
  cases dynamicName? member.1 with
  | some plain =>
      dsimp only
      cases evaluateDynamic member.1 member.2 input context with
      | error failure => rfl
      | ok value => rfl
  | none =>
      dsimp only
      cases evaluate member.2 input context with
      | error failure => rfl
      | ok value => rfl

theorem evaluateItems_eq_ok_iff {items values : List Document} :
    evaluateItems items input context = .ok values ↔
      List.Forall₂ (fun item value => evaluate item input context = .ok value) items values := by
  induction items generalizing values with
  | nil =>
      rw [evaluateItems, List.forall₂_nil_left_iff]
      exact ⟨fun same => (Except.ok.inj same).symm, fun same => congrArg _ same.symm⟩
  | cons item rest induction =>
      rw [evaluateItems, List.forall₂_cons_left_iff, bind_eq_ok]
      simp only [bind_eq_ok, induction]
      constructor
      · rintro ⟨value, evaluated, others, later, same⟩
        exact ⟨value, others, evaluated, later, (Except.ok.inj same).symm⟩
      · rintro ⟨value, others, evaluated, later, rfl⟩
        exact ⟨value, evaluated, others, later, rfl⟩

theorem evaluateMembers_eq_ok_iff {members values : List (String × Document)} :
    evaluateMembers members input context = .ok values ↔
      List.Forall₂ (fun member value => plainName member.1 = value.1 ∧
        evaluateMember member input context = .ok value.2) members values := by
  induction members generalizing values with
  | nil =>
      rw [evaluateMembers, List.forall₂_nil_left_iff]
      exact ⟨fun same => (Except.ok.inj same).symm, fun same => congrArg _ same.symm⟩
  | cons member rest induction =>
      rw [evaluateMembers_cons, List.forall₂_cons_left_iff, bind_eq_ok]
      simp only [bind_eq_ok, induction]
      constructor
      · rintro ⟨value, evaluated, others, later, same⟩
        exact ⟨_, others, ⟨rfl, evaluated⟩, later, (Except.ok.inj same).symm⟩
      · rintro ⟨⟨name, value⟩, others, ⟨rfl, evaluated⟩, later, rfl⟩
        exact ⟨value, evaluated, others, later, rfl⟩

theorem exists_evaluateMembers_iff {members : List (String × Document)} :
    (∃ values, evaluateMembers members input context = .ok values) ↔
      ∀ member ∈ members, ∃ value, evaluateMember member input context = .ok value := by
  induction members with
  | nil =>
      rw [evaluateMembers]
      exact ⟨fun _ => nofun, fun _ => ⟨[], rfl⟩⟩
  | cons member rest induction =>
      rw [List.forall_mem_cons, ← induction]
      constructor
      · rintro ⟨values, evaluated⟩
        rw [evaluateMembers_cons] at evaluated
        obtain ⟨value, own, evaluated⟩ := bind_eq_ok.mp evaluated
        obtain ⟨others, later, _⟩ := bind_eq_ok.mp evaluated
        exact ⟨⟨value, own⟩, others, later⟩
      · rintro ⟨⟨value, own⟩, others, later⟩
        rw [evaluateMembers_cons, own, later]
        exact ⟨_, rfl⟩

end

/-- What is evaluated in a template: a string on its own, or a member that is dynamic, which
is not walked through, since it has no value unless it holds a string. -/
inductive Part where
  | string (text : String)
  | dynamic (name : String) (value : Document)

def Part.evaluate (part : Part) (input context : Document) : Except Failure Document :=
  match part with
  | .string text => evaluateString text input context
  | .dynamic name value => evaluateDynamic name value input context

mutual

/-- The parts of a template, depth first. -/
def parts : Document → List Part
  | .string text => [.string text]
  | .array items => itemParts items
  | .object members => memberParts members
  | .null | .bool _ | .number _ => []

def itemParts : List Document → List Part
  | [] => []
  | item :: rest => parts item ++ itemParts rest

def memberParts : List (String × Document) → List Part
  | [] => []
  | (name, value) :: rest =>
      match dynamicName? name with
      | some _ => .dynamic name value :: memberParts rest
      | none => parts value ++ memberParts rest

end

/-- The failure of the first part that fails. -/
def firstFailure? (input context : Document) (parts : List Part) : Option Failure :=
  parts.findSome? fun part => failure? (part.evaluate input context)

section

variable {input context : Document}

theorem firstFailure?_append (before after : List Part) :
    firstFailure? input context (before ++ after) =
      (firstFailure? input context before).or (firstFailure? input context after) :=
  List.findSome?_append

theorem firstFailure?_cons (part : Part) (rest : List Part) :
    firstFailure? input context (part :: rest) =
      (failure? (part.evaluate input context)).or (firstFailure? input context rest) := by
  rw [← List.singleton_append, firstFailure?_append]
  simp [firstFailure?]

mutual

/-- A template fails as the first of its parts that fails. -/
theorem failure?_evaluate (template : Document) :
    failure? (evaluate template input context) =
      firstFailure? input context (parts template) := by
  cases template with
  | object members =>
      rw [evaluate, parts, ← failure?_evaluateMembers members, bind_ok, failure?_map]
  | array items =>
      rw [evaluate, parts, ← failure?_evaluateItems items, bind_ok, failure?_map]
  | string text =>
      rw [evaluate, parts, firstFailure?_cons]
      exact Option.or_none.symm
  | null | bool | number =>
      rw [evaluate]
      · rfl
      all_goals nofun

theorem failure?_evaluateItems (items : List Document) :
    failure? (evaluateItems items input context) =
      firstFailure? input context (itemParts items) := by
  cases items with
  | nil =>
      rw [evaluateItems]
      rfl
  | cons item rest =>
      rw [evaluateItems, itemParts, firstFailure?_append, ← failure?_evaluate item,
        ← failure?_evaluateItems rest]
      apply failure?_bind
      intro value
      rw [bind_ok, failure?_map]

theorem failure?_evaluateMembers (members : List (String × Document)) :
    failure? (evaluateMembers members input context) =
      firstFailure? input context (memberParts members) := by
  cases members with
  | nil =>
      rw [evaluateMembers]
      rfl
  | cons member rest =>
      obtain ⟨name, value⟩ := member
      have own : firstFailure? input context (memberParts ((name, value) :: rest)) =
          (failure? (evaluateMember (name, value) input context)).or
            (firstFailure? input context (memberParts rest)) := by
        rw [memberParts, evaluateMember]
        cases dynamicName? name with
        | some plain =>
            dsimp only
            exact firstFailure?_cons _ _
        | none =>
            dsimp only
            rw [firstFailure?_append, ← failure?_evaluate value]
      rw [own, ← failure?_evaluateMembers rest, evaluateMembers_cons]
      apply failure?_bind
      intro result
      rw [bind_ok, failure?_map]

end

theorem exists_evaluate_iff {template : Document} :
    (∃ result, evaluate template input context = .ok result) ↔
      ∀ part ∈ parts template, ∃ value, part.evaluate input context = .ok value := by
  rw [← failure?_eq_none_iff, failure?_evaluate, firstFailure?, List.findSome?_eq_none_iff]
  simp only [failure?_eq_none_iff]

theorem evaluate_eq_error_iff {template : Document} {failure : Failure} :
    evaluate template input context = .error failure ↔
      ∃ before part after, parts template = before ++ part :: after ∧
        (∀ earlier ∈ before, ∃ value, earlier.evaluate input context = .ok value) ∧
        part.evaluate input context = .error failure := by
  rw [← failure?_eq_some_iff, failure?_evaluate, firstFailure?, List.findSome?_eq_some_iff]
  simp only [failure?_eq_none_iff, failure?_eq_some_iff]
  constructor
  · rintro ⟨before, part, after, walked, fails, passed⟩
    exact ⟨before, part, after, walked, passed, fails⟩
  · rintro ⟨before, part, after, walked, passed, fails⟩
    exact ⟨before, part, after, walked, fails, passed⟩

end

/-- What an object of a template has under a name in its value: what the dynamic member of the
name selects, if there is one, and else the value of the member of the name. -/
inductive FieldYields (members : List (String × Document)) (input context : Document)
    (name : String) : Document → Prop where
  | dynamic {source value : Document}
      (found : Members.get? (name ++ ".$") members = some source)
      (evaluated : evaluateDynamic (name ++ ".$") source input context = .ok value) :
      FieldYields members input context name value
  | plain {source value : Document}
      (absent : Members.get? (name ++ ".$") members = none)
      (found : Members.get? name members = some source)
      (evaluated : evaluate source input context = .ok value) :
      FieldYields members input context name value

/-- The value of a template, by those of its items and members. -/
inductive Yields (input context : Document) : Document → Document → Prop where
  | null : Yields input context .null .null
  | bool (value : Bool) : Yields input context (.bool value) (.bool value)
  | number (value : Number) : Yields input context (.number value) (.number value)
  | string {text : String} {value : Document}
      (evaluated : evaluateString text input context = .ok value) :
      Yields input context (.string text) value
  | array {items values : List Document}
      (each : List.Forall₂ (fun item value => evaluate item input context = .ok value)
        items values) :
      Yields input context (.array items) (.array values)
  | object {members results : List (String × Document)}
      (each : ∀ member ∈ members, ∃ value, evaluateMember member input context = .ok value)
      (ascending : Members.Ascending results)
      (named : ∀ name, name ∈ Members.names results ↔
        ∃ member ∈ members, plainName member.1 = name)
      (filled : ∀ name value, (name, value) ∈ results →
        FieldYields members input context name value) :
      Yields input context (.object members) (.object results)

section

variable {input context : Document}

theorem FieldYields.unique {members : List (String × Document)} {name : String}
    {value other : Document} (yields : FieldYields members input context name value)
    (second : FieldYields members input context name other) : value = other := by
  cases yields with
  | dynamic found evaluated =>
      cases second with
      | dynamic found' evaluated' =>
          rw [found] at found'
          cases found'
          rw [evaluated] at evaluated'
          exact Except.ok.inj evaluated'
      | plain absent' _ _ =>
          rw [found] at absent'
          cases absent'
  | plain absent found evaluated =>
      cases second with
      | dynamic found' _ =>
          rw [absent] at found'
          cases found'
      | plain _ found' evaluated' =>
          rw [found] at found'
          cases found'
          rw [evaluated] at evaluated'
          exact Except.ok.inj evaluated'

theorem names_of_evaluateMembers {members values : List (String × Document)}
    (evaluated : evaluateMembers members input context = .ok values) :
    Members.names values = members.map fun member => plainName member.1 := by
  have pairs := evaluateMembers_eq_ok_iff.mp evaluated
  clear evaluated
  induction pairs with
  | nil => rfl
  | cons first _ induction =>
      rw [Members.names, List.map_cons, List.map_cons, first.1]
      exact congrArg _ induction

/-- The last member that leads to a name is the dynamic one, if there is one, since the ending
makes a name greater. -/
theorem fieldYields_of_get? {members values : List (String × Document)} {name : String}
    {value : Document} (ascending : Members.Ascending members)
    (evaluated : evaluateMembers members input context = .ok values)
    (found : Members.get? name (Members.ofList values) = some value) :
    FieldYields members input context name value := by
  obtain ⟨before, after, rfl, fresh⟩ := Members.exists_last_of_get?_ofList found
  have pairs := evaluateMembers_eq_ok_iff.mp evaluated
  obtain ⟨earlier, ⟨other, source⟩, later, rfl, ⟨leads, own⟩, rest⟩ := split_of_forall₂ pairs
  have stands : Members.get? other (earlier ++ (other, source) :: later) = some source :=
    Members.get?_of_mem ascending.distinct (List.mem_append_right _ List.mem_cons_self)
  rcases plainName_eq_iff.mp leads with rfl | ⟨rfl, static⟩
  · rw [evaluateMember, dynamicName?_append] at own
    exact .dynamic stands own
  · rw [evaluateMember, dynamicName?_eq_none_iff.mpr static] at own
    refine .plain (Members.get?_eq_none_iff.mpr ?_) stands own
    intro present
    have behind := ascending.mem_names_behind (lt_append_ending other) present
    apply fresh
    rw [names_of_evaluateMembers (evaluateMembers_eq_ok_iff.mpr rest)]
    obtain ⟨member, listed, same⟩ := List.mem_map.mp behind
    refine List.mem_map.mpr ⟨member, listed, ?_⟩
    rw [same, plainName_append]

theorem yields_object {members values : List (String × Document)}
    (ascending : Members.Ascending members)
    (evaluated : evaluateMembers members input context = .ok values) :
    Yields input context (.object members) (.ofMembers values) := by
  have sorted := Members.ascending_ofList values
  refine .object (exists_evaluateMembers_iff.mp ⟨values, evaluated⟩) sorted ?_ ?_
  · intro name
    rw [Members.mem_names_ofList, names_of_evaluateMembers evaluated, List.mem_map]
  · intro name value present
    exact fieldYields_of_get? ascending evaluated (sorted.mem_iff.mp present)

theorem yields_of_evaluate {template result : Document} (ordered : template.Ordered)
    (evaluated : evaluate template input context = .ok result) :
    Yields input context template result := by
  cases ordered with
  | object ascending _ =>
      rw [evaluate] at evaluated
      obtain ⟨values, members, same⟩ := bind_eq_ok.mp evaluated
      cases same
      exact yields_object ascending members
  | array _ =>
      rw [evaluate] at evaluated
      obtain ⟨values, items, same⟩ := bind_eq_ok.mp evaluated
      cases same
      exact .array (evaluateItems_eq_ok_iff.mp items)
  | string text =>
      rw [evaluate] at evaluated
      exact .string evaluated
  | null =>
      rw [evaluate] at evaluated
      · cases evaluated
        exact .null
      all_goals nofun
  | bool value =>
      rw [evaluate] at evaluated
      · cases evaluated
        exact .bool value
      all_goals nofun
  | number value =>
      rw [evaluate] at evaluated
      · cases evaluated
        exact .number value
      all_goals nofun

/-- A template in order has a value exactly where the value is described. -/
theorem evaluate_eq_ok_iff {template result : Document} (ordered : template.Ordered) :
    evaluate template input context = .ok result ↔ Yields input context template result := by
  refine ⟨yields_of_evaluate ordered, ?_⟩
  intro yields
  cases yields with
  | object each sorted named filled =>
      obtain ⟨values, evaluated⟩ := exists_evaluateMembers_iff.mpr each
      rw [evaluate, evaluated]
      cases ordered with
      | object ascending _ =>
          cases yields_object ascending evaluated with
          | object _ sorted' named' filled' =>
              have same := sorted'.eq_of_filled sorted
                (fun _ _ _ first second => first.unique second)
                (fun name => (named' name).trans (named name).symm) filled' filled
              exact congrArg (fun results => Except.ok (Document.object results)) same
  | array each =>
      rw [evaluate, evaluateItems_eq_ok_iff.mpr each]
      rfl
  | string evaluated =>
      rw [evaluate]
      exact evaluated
  | null | bool | number =>
      rw [evaluate]
      all_goals nofun

end

mutual

/-- The names of the members in a template, at any depth. -/
def keys : Document → List String
  | .array items => itemKeys items
  | .object members => memberKeys members
  | .null | .bool _ | .number _ | .string _ => []

def itemKeys : List Document → List String
  | [] => []
  | item :: rest => keys item ++ itemKeys rest

def memberKeys : List (String × Document) → List String
  | [] => []
  | (name, value) :: rest => name :: keys value ++ memberKeys rest

end

/-- A string that is neither a path nor a call. -/
def IsLiteral (text : String) : Prop :=
  Path.isPath text = false ∧ Call.isIntrinsic text = false

instance (text : String) : Decidable (IsLiteral text) :=
  inferInstanceAs (Decidable (_ ∧ _))

section

variable (input context : Document)

mutual

/-- A template of plain names and literal strings is its own value. -/
theorem evaluate_literal (template : Document) (ordered : template.Ordered)
    (plain : ∀ key ∈ keys template, ¬ IsDynamicName key)
    (literal : ∀ text ∈ texts template, IsLiteral text) :
    evaluate template input context = .ok template := by
  cases template with
  | object members =>
      rw [keys] at plain
      rw [texts] at literal
      rw [Document.ordered_object_iff] at ordered
      rw [evaluate, evaluateMembers_literal members ordered.2 plain literal]
      exact congrArg (fun members => Except.ok (Document.object members)) ordered.1.ofList_eq
  | array items =>
      rw [keys] at plain
      rw [texts] at literal
      rw [Document.ordered_array_iff] at ordered
      rw [evaluate, evaluateItems_literal items ordered plain literal]
      rfl
  | string text =>
      obtain ⟨pathless, unknown⟩ := literal text List.mem_cons_self
      rw [evaluate, evaluateString_of_unrecognised input context pathless unknown]
  | null | bool | number =>
      rw [evaluate]
      all_goals nofun

theorem evaluateItems_literal (items : List Document) (ordered : ∀ item ∈ items, item.Ordered)
    (plain : ∀ key ∈ itemKeys items, ¬ IsDynamicName key)
    (literal : ∀ text ∈ itemTexts items, IsLiteral text) :
    evaluateItems items input context = .ok items := by
  cases items with
  | nil => rw [evaluateItems]
  | cons item rest =>
      rw [List.forall_mem_cons] at ordered
      rw [itemKeys, List.forall_mem_append] at plain
      rw [itemTexts, List.forall_mem_append] at literal
      rw [evaluateItems, evaluate_literal item ordered.1 plain.1 literal.1,
        evaluateItems_literal rest ordered.2 plain.2 literal.2]
      rfl

theorem evaluateMembers_literal (members : List (String × Document))
    (ordered : ∀ member ∈ members, member.2.Ordered)
    (plain : ∀ key ∈ memberKeys members, ¬ IsDynamicName key)
    (literal : ∀ text ∈ memberTexts members, IsLiteral text) :
    evaluateMembers members input context = .ok members := by
  cases members with
  | nil => rw [evaluateMembers]
  | cons member rest =>
      obtain ⟨name, value⟩ := member
      rw [List.forall_mem_cons] at ordered
      rw [memberKeys, List.forall_mem_append, List.forall_mem_cons] at plain
      rw [memberTexts, List.forall_mem_append] at literal
      rw [evaluateMembers, dynamicName?_eq_none_iff.mpr plain.1.1]
      dsimp only
      rw [evaluate_literal value ordered.1 plain.1.2 literal.1,
        evaluateMembers_literal rest ordered.2 plain.2 literal.2]
      rfl

end

end

/-- A template has a value if each of its parts has one, and fails else as the first part that
has none.  Its value keeps its structure, and a template without paths, calls and dynamic names
is its own value. -/
theorem evaluate_structure {template : Document} (ordered : template.Ordered)
    (input context : Document) :
    ((∃ result, evaluate template input context = .ok result) ↔
      ∀ part ∈ parts template, ∃ value, part.evaluate input context = .ok value) ∧
    (∀ failure, evaluate template input context = .error failure ↔
      ∃ before part after, parts template = before ++ part :: after ∧
        (∀ earlier ∈ before, ∃ value, earlier.evaluate input context = .ok value) ∧
        part.evaluate input context = .error failure) ∧
    (∀ result, evaluate template input context = .ok result ↔
      Yields input context template result) ∧
    ((∀ key ∈ keys template, ¬ IsDynamicName key) →
      (∀ text ∈ texts template, IsLiteral text) →
        evaluate template input context = .ok template) :=
  ⟨exists_evaluate_iff, fun _ => evaluate_eq_error_iff, fun _ => evaluate_eq_ok_iff ordered,
    evaluate_literal input context template ordered⟩

/-- Names that lead to one name, and a member that is literal. -/
def colliding : Document :=
  .object [("a", .string "$.x"), ("a.$", .string "States.Array(1)"), ("a.$.$", .string "$.y"),
    ("n", .array [.ofNat 1, .string "one"])]

/-- The dynamic member counts, but the plain one of that name must have a value as well.  What
is literal is its own value. -/
theorem colliding_structure :
    colliding.Ordered ∧
      Yields (.object [("x", .null), ("y", .ofNat 7)]) .null colliding
        (.object [("a", .array [.ofNat 1]), ("a.$", .ofNat 7),
          ("n", .array [.ofNat 1, .string "one"])]) ∧
      evaluate colliding (.object [("y", .ofNat 7)]) .null =
        .error (.invalidPath "$.x (no field 'x')") ∧
      ∀ input context, evaluate (.array [.ofNat 1, .string "one"]) input context =
        .ok (.array [.ofNat 1, .string "one"]) := by
  have ordered : colliding.Ordered :=
    Document.ordered_object_iff.mpr ⟨by decide +kernel, by simp⟩
  have literal : (Document.array [.ofNat 1, .string "one"]).Ordered := by simp
  refine ⟨ordered, ?_, ?_, ?_⟩
  · exact ((evaluate_structure ordered _ _).2.2.1 _).mp (by decide +kernel)
  · exact ((evaluate_structure ordered _ _).2.1 _).mpr
      ⟨[], .string "$.x", _, rfl, nofun, by decide +kernel⟩
  · intro input context
    exact (evaluate_structure literal input context).2.2.2 (by decide +kernel)
      (by decide +kernel)

end Template

end StatesLanguage
