import StatesLanguage.Proofs.Agreement
import StatesLanguage.Proofs.Members

/-!
# Alike data

Two documents are alike if they differ at most in the texts of their strings, that is,
if they have one outline.  Following a path commutes with taking outlines, so a path
selects alike values of alike documents.  Of the functions, only the one that parses a
text can tell alike arguments apart.  A template that does not call it has alike results
for alike data, or fails in the same way on both.
-/

namespace StatesLanguage

namespace Document

mutual

/-- The document with the texts of its strings emptied. -/
def outline : Document → Document
  | .null => .null
  | .bool value => .bool value
  | .number value => .number value
  | .string _ => .string ""
  | .array items => .array (outlineItems items)
  | .object members => .object (outlineMembers members)

def outlineItems : List Document → List Document
  | [] => []
  | item :: rest => outline item :: outlineItems rest

def outlineMembers : List (String × Document) → List (String × Document)
  | [] => []
  | (name, value) :: rest => (name, outline value) :: outlineMembers rest

end

theorem outline_array (items : List Document) :
    (Document.array items).outline = .array (items.map outline) := by
  have each : ∀ items, outlineItems items = items.map outline := by
    intro items
    induction items with
    | nil => rfl
    | cons item rest induction => rw [outlineItems, induction, List.map_cons]
  rw [outline, each]

theorem outline_object (members : List (String × Document)) :
    (Document.object members).outline = .object (members.map (Prod.map id outline)) := by
  have each : ∀ members, outlineMembers members = members.map (Prod.map id outline) := by
    intro members
    induction members with
    | nil => rfl
    | cons member rest induction => rw [outlineMembers, induction, List.map_cons, Prod.map, id]
  rw [outline, each]

/-- Two documents have the same structure, names, numbers and truth values. -/
def Alike (first second : Document) : Prop :=
  first.outline = second.outline

namespace Alike

theorem refl (document : Document) : document.Alike document :=
  rfl

theorem string (first second : String) : (Document.string first).Alike (.string second) :=
  rfl

theorem exists_string {text : String} {second : Document}
    (alike : (Document.string text).Alike second) : ∃ other, second = .string other := by
  cases second with
  | string other => exact ⟨other, rfl⟩
  | null | bool | number | array | object => cases alike

theorem symm {first second : Document} (alike : first.Alike second) : second.Alike first :=
  Eq.symm alike

end Alike

/-- Arrays are alike item by item. -/
theorem alike_array_iff {items others : List Document} :
    (Document.array items).Alike (.array others) ↔ List.Forall₂ Alike items others := by
  have pointwise : List.Forall₂ Alike items others ↔
      List.Forall₂ (· = ·) (items.map outline) (others.map outline) := by
    rw [List.forall₂_map_left_iff, List.forall₂_map_right_iff]
    rfl
  rw [pointwise, List.forall₂_eq_eq_eq, Alike, outline_array, outline_array, array.injEq]

/-- Objects are alike if they have the same names in order, and under each of them alike
values. -/
theorem alike_object_iff {members others : List (String × Document)} :
    (Document.object members).Alike (.object others) ↔
      List.Forall₂ (Members.Related Alike) members others := by
  have pointwise : List.Forall₂ (Members.Related Alike) members others ↔
      List.Forall₂ (· = ·) (members.map (Prod.map id outline))
        (others.map (Prod.map id outline)) := by
    rw [List.forall₂_map_left_iff, List.forall₂_map_right_iff]
    simp only [Prod.map, id, Prod.mk.injEq]
    rfl
  rw [pointwise, List.forall₂_eq_eq_eq, Alike, outline_object, outline_object, object.injEq]

theorem member?_outline (name : String) (document : Document) :
    document.outline.member? name = (document.member? name).map outline := by
  cases document with
  | object members =>
      rw [outline_object]
      exact Members.get?_map outline name members
  | null | bool | number | string => rfl
  | array items =>
      rw [outline_array]
      rfl

theorem Alike.ofMembers {members others : List (String × Document)}
    (alike : List.Forall₂ (Members.Related Alike) members others) :
    (Document.ofMembers members).Alike (Document.ofMembers others) := by
  have same := alike_object_iff.mpr alike
  simp only [Alike, outline_object, object.injEq] at same
  rw [Alike, Document.ofMembers, Document.ofMembers, outline_object, outline_object,
    ← Members.ofList_map, same, Members.ofList_map]

end Document

namespace Path

open Document (outline)

theorem itemAt?_map {α β : Type} (function : α → β) (items : List α) (position : Int) :
    itemAt? (items.map function) position = (itemAt? items position).map function := by
  rw [itemAt?, itemAt?]
  split
  · rfl
  · exact List.getElem?_map

theorem sliceItems_map {α β : Type} (function : α → β) (items : List α)
    (start stop : Option Int) :
    sliceItems (items.map function) start stop =
      (sliceItems items start stop).map function := by
  simp only [sliceItems, List.length_map, List.map_drop, List.map_take]

theorem Step.select_outline (step : Step) (document : Document) :
    step.select document.outline = (step.select document).map outline := by
  cases step with
  | key name =>
      rw [Step.select, Step.select, Document.member?_outline]
      cases document.member? name with
      | none => rfl
      | some value => rfl
  | index position =>
      cases document with
      | array items =>
          rw [Document.outline_array, Step.select, Step.select]
          simp only [itemAt?_map]
          cases itemAt? items position with
          | none => rfl
          | some item => rfl
      | object members =>
          rw [Document.outline_object]
          rfl
      | null | bool | number | string => rfl
  | slice start stop =>
      cases document with
      | array items =>
          have kept := Document.outline_array (sliceItems items start stop)
          rw [← sliceItems_map] at kept
          rw [Document.outline_array, Step.select, Step.select, Except.map, kept]
      | object members =>
          rw [Document.outline_object]
          rfl
      | null | bool | number | string => rfl

theorem follow_outline (steps : List Step) (document : Document) :
    follow steps document.outline = (follow steps document).map outline := by
  induction steps generalizing document with
  | nil => rfl
  | cons step rest induction =>
      rw [follow, follow, Step.select_outline]
      cases step.select document with
      | error fault => rfl
      | ok next => exact induction next

theorem resolve_outline (path : Path) (document context : Document) :
    path.resolve document.outline context.outline =
      (path.resolve document context).map outline := by
  rw [resolve, resolve, ← follow_outline]
  cases path.root with
  | document => rfl
  | context => rfl

end Path

theorem Document.resolve_outline (document context : Document) (expression : String) :
    document.outline.resolve expression context.outline =
      (document.resolve expression context).map Document.outline := by
  rw [Document.resolve, Document.resolve]
  cases Path.read expression with
  | error fault => rfl
  | ok path =>
      have followed := Path.resolve_outline path document context
      simp only [bind, Except.bind, followed]
      cases path.resolve document context with
      | error fault => rfl
      | ok value => rfl

/-- Two failures are of one variant. -/
def Failure.SameVariant (first second : Failure) : Prop :=
  first.ctorIdx = second.ctorIdx

theorem Document.congruence_alike : Document.Congruence Failure.SameVariant Document.Alike where
  failure _ := rfl
  document := Document.Alike.refl
  array := Document.alike_array_iff.mpr
  ofMembers := Document.Alike.ofMembers

/-- A path selects alike values of alike documents. -/
theorem Document.Alike.resolve {first second firstContext secondContext : Document}
    (documents : first.Alike second) (contexts : firstContext.Alike secondContext)
    (expression : String) :
    Outcome.Agree Failure.SameVariant Document.Alike (first.resolve expression firstContext)
      (second.resolve expression secondContext) := by
  have same : (first.resolve expression firstContext).map Document.outline =
      (second.resolve expression secondContext).map Document.outline := by
    rw [← Document.resolve_outline, ← Document.resolve_outline, documents, contexts]
  cases reached : first.resolve expression firstContext with
  | error failure =>
      cases arrived : second.resolve expression secondContext with
      | error other =>
          rw [reached, arrived] at same
          cases same
          exact .failed rfl
      | ok value =>
          rw [reached, arrived] at same
          cases same
  | ok value =>
      cases arrived : second.resolve expression secondContext with
      | error other =>
          rw [reached, arrived] at same
          cases same
      | ok other =>
          rw [reached, arrived] at same
          exact .succeeded (Except.ok.inj same)

namespace Intrinsic

theorem name_of_ofName {name : String} {function : Intrinsic}
    (found : ofName name = .ok function) : function.name = name := by
  rw [ofName] at found
  split at found
  · rename_i known
    cases found
    have named := List.find?_some known
    exact of_decide_eq_true named
  · cases found

private theorem applyFormat_of_ne_string {template : Document} {values : List Document}
    (other : ∀ text, template ≠ .string text) :
    ∃ detail, applyFormat (template :: values) = .error (.invalidFunction detail) := by
  cases template with
  | string text => exact absurd rfl (other text)
  | null | bool | number | array | object => exact ⟨_, rfl⟩

theorem applyFormat_alike {values others : List Document}
    (alike : List.Forall₂ Document.Alike values others) :
    Outcome.Agree Failure.SameVariant Document.Alike (applyFormat values)
      (applyFormat others) := by
  cases alike with
  | nil => exact .failed rfl
  | @cons template pattern values others head rest =>
      by_cases written : ∃ text, template = .string text
      · obtain ⟨text, rfl⟩ := written
        obtain ⟨other, rfl⟩ := head.exists_string
        exact .succeeded (.string _ _)
      · have unwritten : ∀ text, pattern ≠ .string text := by
          rintro text rfl
          obtain ⟨other, same⟩ := head.symm.exists_string
          exact written ⟨other, same⟩
        obtain ⟨detail, failed⟩ :=
          applyFormat_of_ne_string fun text same => written ⟨text, same⟩
        obtain ⟨other, stopped⟩ := applyFormat_of_ne_string unwritten
        rw [failed, stopped]
        exact .failed rfl

theorem single_alike (function : Intrinsic) {values others : List Document}
    (alike : List.Forall₂ Document.Alike values others) :
    Outcome.Agree Failure.SameVariant Document.Alike (single function values)
      (single function others) := by
  cases alike with
  | nil => exact .failed rfl
  | cons head rest =>
      cases rest with
      | nil => exact .succeeded head
      | cons next more => exact .failed rfl

/-- A function that parses no text cannot tell alike arguments apart. -/
theorem keeps_alike {function : Intrinsic} (unread : function ≠ .stringToJson) :
    function.Keeps Failure.SameVariant Document.Alike := by
  intro values others alike
  cases function with
  | format => exact applyFormat_alike alike
  | jsonToString =>
      apply (single_alike .jsonToString alike).bind
      intro value other _
      exact .succeeded (.string _ _)
  | stringToJson => exact absurd rfl unread
  | array => exact .succeeded (Document.alike_array_iff.mpr alike)

end Intrinsic

namespace Template

/-- No call that is written in a template parses a text. -/
def ParsesNoText (template : Document) : Prop :=
  ∀ text ∈ texts template, ∀ call ∈ Call.read? text,
    call.name ≠ Intrinsic.stringToJson.name

instance (template : Document) : Decidable (ParsesNoText template) :=
  inferInstanceAs (Decidable (∀ text ∈ texts template, ∀ call ∈ Call.read? text,
    call.name ≠ Intrinsic.stringToJson.name))

/-- Data is never read as code: it counts only where the template writes a path, and alike
data gives alike results, or failures of one variant. -/
theorem evaluate_alike_or_fails {template first second firstContext secondContext : Document}
    (unread : ParsesNoText template) (inputs : first.Alike second)
    (contexts : firstContext.Alike secondContext) :
    ReadsOnly (paths template) template ∧
      ((∃ result other, evaluate template first firstContext = .ok result ∧
          evaluate template second secondContext = .ok other ∧ result.Alike other) ∨
        ∃ failure other, evaluate template first firstContext = .error failure ∧
          evaluate template second secondContext = .error other ∧
          failure.SameVariant other) := by
  refine ⟨readsOnly_paths template, ?_⟩
  have kept : ∀ text ∈ texts template, ∀ call, Call.read? text = some call → ∀ function,
      Intrinsic.ofName call.name = .ok function →
      function.Keeps Failure.SameVariant Document.Alike := by
    intro text written call reading function found
    apply Intrinsic.keeps_alike
    rintro rfl
    exact unread text written call reading (Intrinsic.name_of_ofName found).symm
  have agree := evaluate_agree_of_paths Document.congruence_alike
    (fun expression _ => inputs.resolve contexts expression) kept
  exact agree.ok_or_error

/-- A line whose pattern is taken from the data, and who it is about. -/
def greeting : Document :=
  .object
    [("line.$", .string "States.Format($.pattern, $.name)"),
      ("users", .string "States.Array($$.user, $.name)")]

def visitor (name pattern : String) : Document :=
  .object [("name", .string name), ("pattern", .string pattern)]

def session (user : String) : Document :=
  .object [("user", .string user)]

theorem greeting_alike_or_fails :
    ParsesNoText greeting ∧
      (visitor "Ada" "Hello \x7b\x7d").Alike
        (visitor "\x7b\x7d" "States.StringToJson($.name)\x7b\x7d") ∧
      (session "ada").Alike (session "$.pattern") ∧
      ∃ result other,
        evaluate greeting (visitor "Ada" "Hello \x7b\x7d") (session "ada") = .ok result ∧
          evaluate greeting (visitor "\x7b\x7d" "States.StringToJson($.name)\x7b\x7d")
            (session "$.pattern") = .ok other ∧
          result.Alike other ∧
          other.member? "line" = some (.string "States.StringToJson($.name)\x7b\x7d") := by
  have unread : ParsesNoText greeting := by decide +kernel
  have written :
      evaluate greeting (visitor "\x7b\x7d" "States.StringToJson($.name)\x7b\x7d")
          (session "$.pattern") =
        .ok (.object [("line", .string "States.StringToJson($.name)\x7b\x7d"),
          ("users", .array [.string "$.pattern", .string "\x7b\x7d"])]) := by
    decide +kernel
  have inputs : (visitor "Ada" "Hello \x7b\x7d").Alike
      (visitor "\x7b\x7d" "States.StringToJson($.name)\x7b\x7d") := rfl
  have contexts : (session "ada").Alike (session "$.pattern") := rfl
  refine ⟨unread, inputs, contexts, ?_⟩
  rcases (evaluate_alike_or_fails unread inputs contexts).2 with
    ⟨result, other, left, right, alike⟩ | ⟨failure, other, left, right, variant⟩
  · refine ⟨result, other, left, right, alike, ?_⟩
    rw [written] at right
    cases right
    rfl
  · rw [written] at right
    cases right

end Template

end StatesLanguage
