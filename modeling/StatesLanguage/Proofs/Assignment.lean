import Mathlib.Control.Monad.Basic
import StatesLanguage.Path.Assignment
import StatesLanguage.Proofs.Members
import StatesLanguage.Proofs.Outcome

/-!
# Assigning and following

`Path.Assigns` describes a successful assignment one step at a time: what is replaced, and
what is put back around it.  That it describes the assignments of `Path.assign` is
`Path.assign_eq_iff`; the laws that join assigning with following are inductions over it.
-/

namespace StatesLanguage

open Outcome

namespace Path

theorem itemAt?_eq_some {α : Type} {items : List α} {position : Int} {item : α} :
    itemAt? items position = some item ↔
      0 ≤ position ∧ items[position.toNat]? = some item := by
  unfold itemAt?
  split
  · rename_i negative
    have refuted : ¬ 0 ≤ position := by omega
    simp [refuted]
  · rename_i counted
    have holds : 0 ≤ position := by omega
    simp [holds]

theorem itemAt?_set_self {α : Type} {items : List α} {position : Int} {item : α}
    (found : itemAt? items position = some item) (value : α) :
    itemAt? (items.set position.toNat value) position = some value := by
  obtain ⟨counted, there⟩ := itemAt?_eq_some.mp found
  have within : position.toNat < items.length := (List.getElem?_eq_some_iff.mp there).1
  exact itemAt?_eq_some.mpr ⟨counted, List.getElem?_set_self within⟩

theorem itemAt?_set_of_ne {α : Type} {items : List α} {position other : Int} {item : α}
    (found : itemAt? items position = some item) (differ : position ≠ other) (value : α) :
    itemAt? (items.set position.toNat value) other = itemAt? items other := by
  have counted : 0 ≤ position := (itemAt?_eq_some.mp found).1
  unfold itemAt?
  split
  · rfl
  · have elsewhere : position.toNat ≠ other.toNat := by omega
    exact List.getElem?_set_ne elsewhere

theorem set_of_itemAt? {α : Type} {items : List α} {position : Int} {item : α}
    (found : itemAt? items position = some item) :
    items.set position.toNat item = items := by
  obtain ⟨-, there⟩ := itemAt?_eq_some.mp found
  obtain ⟨within, rfl⟩ := List.getElem?_eq_some_iff.mp there
  exact List.set_getElem_self within

theorem follow_key_object {name : String} {rest : List Step}
    {members : List (String × Document)} {target : Document} :
    follow (.key name :: rest) (.object members) = .ok target ↔
      ∃ child, Members.get? name members = some child ∧ follow rest child = .ok target := by
  rw [follow, bind_eq_ok]
  cases found : Members.get? name members with
  | none => simp [Step.select, Document.member?, found]
  | some child => simp [Step.select, Document.member?, found]

theorem follow_index_array {position : Int} {rest : List Step} {items : List Document}
    {target : Document} :
    follow (.index position :: rest) (.array items) = .ok target ↔
      ∃ child, itemAt? items position = some child ∧ follow rest child = .ok target := by
  rw [follow, bind_eq_ok]
  cases found : itemAt? items position with
  | none => simp [Step.select, found]
  | some child => simp [Step.select, found]

theorem object_of_follow_key {name : String} {rest : List Step} {document target : Document}
    (found : follow (.key name :: rest) document = .ok target) :
    ∃ members, document = .object members := by
  cases document with
  | object members => exact ⟨members, rfl⟩
  | _ => cases found

theorem array_of_follow_index {position : Int} {rest : List Step}
    {document target : Document}
    (found : follow (.index position :: rest) document = .ok target) :
    ∃ items, document = .array items := by
  cases document with
  | array items => exact ⟨items, rfl⟩
  | _ => cases found

/-- An assignment of a value along some steps turns one document into another. -/
inductive Assigns (value : Document) : List Step → Document → Document → Prop where
  | here (document : Document) : Assigns value [] document value
  | member {name : String} {rest : List Step} {members : List (String × Document)}
      {below : Document}
      (inner : Assigns value rest ((Members.get? name members).getD .empty) below) :
      Assigns value (.key name :: rest) (.object members)
        (.object (Members.insert name below members))
  | item {position : Int} {rest : List Step} {items : List Document}
      {child below : Document} (found : itemAt? items position = some child)
      (inner : Assigns value rest child below) :
      Assigns value (.index position :: rest) (.array items)
        (.array (items.set position.toNat below))

theorem assign_eq_iff {value : Document} {steps : List Step} {document left : Document} :
    assign value steps document = ⟨left, none⟩ ↔ Assigns value steps document left := by
  constructor
  · intro assigned
    induction steps generalizing document left with
    | nil =>
        cases assigned
        exact .here document
    | cons step rest induction =>
        cases step with
        | key name =>
            cases document with
            | object members =>
                obtain ⟨rfl, flawless⟩ := Assignment.mk.inj assigned
                exact .member (induction (congrArg (Assignment.mk _) flawless))
            | _ => cases assigned
        | index position =>
            cases document with
            | array items =>
                cases there : itemAt? items position with
                | none => simp [assign, there] at assigned
                | some child =>
                    simp only [assign, there, Assignment.mk.injEq] at assigned
                    obtain ⟨rfl, flawless⟩ := assigned
                    exact .item there (induction (congrArg (Assignment.mk _) flawless))
            | _ => cases assigned
        | slice start stop => cases assigned
  · intro assigned
    induction assigned with
    | here document => rfl
    | member inner induction => simp [assign, induction]
    | item there inner induction => simp [assign, there, induction]

/-- What was assigned is found. -/
theorem Assigns.follow {value document left : Document} {steps : List Step}
    (assigned : Assigns value steps document left) : follow steps left = .ok value := by
  induction assigned with
  | here document => rfl
  | member inner found =>
      exact follow_key_object.mpr ⟨_, Members.get?_insert_self _ _ _, found⟩
  | item there inner found =>
      exact follow_index_array.mpr ⟨_, itemAt?_set_self there _, found⟩

/-- Whether an assignment succeeds does not depend on the value, and a second one at the
same place undoes the first. -/
theorem Assigns.again {value document left : Document} {steps : List Step}
    (assigned : Assigns value steps document left) (other : Document) :
    ∃ final, Assigns other steps document final ∧ Assigns other steps left final := by
  induction assigned with
  | here document => exact ⟨other, .here document, .here value⟩
  | @member name rest members below inner induction =>
      obtain ⟨final, direct, second⟩ := induction
      have found : (Members.get? name (Members.insert name below members)).getD .empty =
          below := by simp
      rw [← found] at second
      have assigned := Assigns.member second
      rw [Members.insert_insert] at assigned
      exact ⟨_, .member direct, assigned⟩
  | @item position rest items child below there inner induction =>
      obtain ⟨final, direct, second⟩ := induction
      have assigned := Assigns.item (itemAt?_set_self there below) second
      rw [List.set_set] at assigned
      exact ⟨_, .item there direct, assigned⟩

/-- A step to one member or to one item. -/
def Step.IsSingular : Step → Prop
  | .slice _ _ => False
  | _ => True

/-- Assigning what is there changes nothing. -/
theorem assigns_of_follow {steps : List Step}
    (singular : ∀ step, step ∈ steps → step.IsSingular) {document value : Document}
    (found : follow steps document = .ok value) : Assigns value steps document document := by
  induction steps generalizing document with
  | nil =>
      cases found
      exact .here value
  | cons step rest induction =>
      have later : ∀ step, step ∈ rest → step.IsSingular :=
        fun other member => singular other (List.mem_cons_of_mem step member)
      cases step with
      | key name =>
          obtain ⟨members, rfl⟩ := object_of_follow_key found
          obtain ⟨child, there, found⟩ := follow_key_object.mp found
          have same : (Members.get? name members).getD .empty = child := by simp [there]
          have inner := induction later found
          rw [← same] at inner
          have assigned := Assigns.member inner
          rwa [same, Members.insert_of_get? there] at assigned
      | index position =>
          obtain ⟨items, rfl⟩ := array_of_follow_index found
          obtain ⟨child, there, found⟩ := follow_index_array.mp found
          have assigned := Assigns.item there (induction later found)
          rwa [set_of_itemAt? there] at assigned
      | slice start stop => exact (singular _ List.mem_cons_self).elim

end Path

namespace Document

theorem resolve_eq_ok {document context value : Document} {expression : String} :
    document.resolve expression context = .ok value ↔
      ∃ path, Path.read expression = .ok path ∧
        path.resolve document context = .ok value := by
  rw [Document.resolve, mapError_eq_ok, bind_eq_ok]

theorem assign_eq_ok {document value left : Document} {expression : String} :
    document.assign expression value = (left, .ok ()) ↔
      ∃ steps, Path.read expression = .ok ⟨.document, steps⟩ ∧
        Path.Assigns value steps document left := by
  unfold Document.assign
  cases parsed : Path.read expression with
  | error fault => simp
  | ok path =>
      obtain ⟨root, steps⟩ := path
      cases root with
      | context => simp
      | document =>
          simp only [Except.ok.injEq, Path.mk.injEq, true_and, exists_eq_left',
            ← Path.assign_eq_iff]
          cases assigned : Path.assign value steps document with
          | mk result fault =>
              cases fault with
              | none => simp
              | some fault => simp

/-- The lens laws.  What an assignment puts at a path is found there, and a second value
put there leaves no trace of the first.  Putting back what a path of members and items
finds changes nothing. -/
theorem assign_lens (document : Document) (expression : String)
    (context value other : Document) :
    (∀ left, document.assign expression value = (left, .ok ()) →
      left.resolve expression context = .ok value ∧
        ∃ final, left.assign expression other = (final, .ok ()) ∧
          document.assign expression other = (final, .ok ())) ∧
    (∀ steps, Path.read expression = .ok ⟨.document, steps⟩ →
      (∀ step, step ∈ steps → step.IsSingular) →
      document.resolve expression context = .ok value →
        document.assign expression value = (document, .ok ())) := by
  constructor
  · intro left succeeded
    obtain ⟨steps, parsed, assigned⟩ := assign_eq_ok.mp succeeded
    obtain ⟨final, direct, second⟩ := assigned.again other
    refine ⟨resolve_eq_ok.mpr ⟨_, parsed, assigned.follow⟩, final, ?_, ?_⟩
    · exact assign_eq_ok.mpr ⟨steps, parsed, second⟩
    · exact assign_eq_ok.mpr ⟨steps, parsed, direct⟩
  · intro steps parsed singular found
    obtain ⟨path, same, found⟩ := resolve_eq_ok.mp found
    rw [parsed] at same
    cases same
    exact assign_eq_ok.mpr ⟨steps, parsed, Path.assigns_of_follow singular found⟩

/-- A document with a single order, by the members of the order. -/
def orders (members : List (String × Document)) : Document :=
  .object [("orders", .array [.object members])]

theorem orders_assign_lens :
    (orders [("id", .ofNat 7)]).assign "$.orders[0].total.net" (.ofNat 1) =
        (orders [("id", .ofNat 7), ("total", .object [("net", .ofNat 1)])], .ok ()) ∧
      (orders [("id", .ofNat 7), ("total", .object [("net", .ofNat 1)])]).resolve
        "$.orders[0].total.net" .null = .ok (.ofNat 1) ∧
      (∃ final,
        (orders [("id", .ofNat 7), ("total", .object [("net", .ofNat 1)])]).assign
          "$.orders[0].total.net" (.ofNat 2) = (final, .ok ()) ∧
        (orders [("id", .ofNat 7)]).assign "$.orders[0].total.net" (.ofNat 2) =
          (final, .ok ())) ∧
      (orders [("id", .ofNat 7)]).resolve "$.orders[0].id" .null = .ok (.ofNat 7) ∧
      (orders [("id", .ofNat 7)]).assign "$.orders[0].id" (.ofNat 7) =
        (orders [("id", .ofNat 7)], .ok ()) := by
  have put : (orders [("id", .ofNat 7)]).assign "$.orders[0].total.net" (.ofNat 1) =
      (orders [("id", .ofNat 7), ("total", .object [("net", .ofNat 1)])], .ok ()) := by
    decide +kernel
  have got : (orders [("id", .ofNat 7)]).resolve "$.orders[0].id" .null =
      .ok (.ofNat 7) := by
    decide +kernel
  have parsed : Path.read "$.orders[0].id" =
      .ok ⟨.document, [.key "orders", .index 0, .key "id"]⟩ := by
    decide +kernel
  obtain ⟨found, again⟩ := (assign_lens _ _ .null _ (.ofNat 2)).1 _ put
  refine ⟨put, found, again, got, ?_⟩
  refine (assign_lens _ _ .null _ .null).2 _ parsed ?_ got
  simp [Path.Step.IsSingular]

end Document

end StatesLanguage
