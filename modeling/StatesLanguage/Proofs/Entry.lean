import StatesLanguage.Proofs.Assignment

/-!
# One step of an assignment

An assignment enters a member or an item, goes on there, and puts what is left back where it
entered.  Whether it enters and what it puts back is said here for a single step, as the
laws of a lens, so that laws of whole assignments are inductions over their steps.
-/

namespace StatesLanguage

namespace Path

theorem exists_split_of_itemAt? {α : Type} {items : List α} {position : Int} {item : α}
    (found : itemAt? items position = some item) :
    ∃ before after, position = before.length ∧ items = before ++ item :: after ∧
      ∀ other, items.set position.toNat other = before ++ other :: after := by
  obtain ⟨counted, there⟩ := itemAt?_eq_some.mp found
  obtain ⟨within, rfl⟩ := List.getElem?_eq_some_iff.mp there
  refine ⟨items.take position.toNat, items.drop (position.toNat + 1), ?_, ?_, ?_⟩
  · rw [List.length_take]
    omega
  · rw [← List.drop_eq_getElem_cons within, List.take_append_drop]
  · intro other
    rw [List.set_eq_take_append_cons_drop, if_pos within]

theorem itemAt?_replaced {α : Type} {position : Int} {before after : List α}
    {child found : α} (there : itemAt? (before ++ child :: after) position = some found)
    (other : α) :
    itemAt? (before ++ other :: after) position = some found ∨
      found = child ∧ itemAt? (before ++ other :: after) position = some other := by
  obtain ⟨counted, there⟩ := itemAt?_eq_some.mp there
  simp only [itemAt?_eq_some, counted, true_and]
  rw [List.getElem?_append, List.getElem?_cons] at there ⊢
  by_cases early : position.toNat < before.length
  · rw [if_pos early] at there ⊢
    exact .inl there
  · by_cases here : position.toNat - before.length = 0
    · rw [if_neg early, if_pos here] at there
      cases there
      exact .inr ⟨rfl, by rw [if_neg early, if_pos here]⟩
    · rw [if_neg early, if_neg here] at there ⊢
      exact .inl there

/-- Where an assignment goes on at a step: an item, or a member, which is an empty object if
it is new. -/
def Step.enter? : Step → Document → Option Document
  | .key name, .object members => some ((Members.get? name members).getD .empty)
  | .index position, .array items => itemAt? items position
  | _, _ => none

/-- The document with another one where the step enters. -/
def Step.putBack (below : Document) : Step → Document → Document
  | .key name, .object members => .object (Members.insert name below members)
  | .index position, .array items => .array (items.set position.toNat below)
  | _, document => document

/-- Why an assignment does not enter at a step. -/
def Step.refusal (isLast : Bool) : Step → Document → Fault
  | .index position, .array _ => .indexOutOfRange position
  | .slice _ _, _ => if isLast then .assignToSlice else .throughSlice
  | _, _ => if isLast then .assignIntoScalar else .throughScalar

theorem assign_cons_of_entered {step : Step} {document child : Document}
    (entered : step.enter? document = some child) (value : Document) (rest : List Step) :
    assign value (step :: rest) document =
      ⟨step.putBack (assign value rest child).document document,
        (assign value rest child).fault⟩ := by
  cases step with
  | key name =>
      cases document with
      | object members =>
          cases entered
          rfl
      | _ => cases entered
  | index position =>
      cases document with
      | array items =>
          simp only [Step.enter?] at entered
          simp only [assign, entered, Step.putBack]
      | _ => cases entered
  | slice start stop => cases entered

theorem assign_cons_of_refused {step : Step} {document : Document}
    (refused : step.enter? document = none) (value : Document) (rest : List Step) :
    assign value (step :: rest) document =
      ⟨document, some (step.refusal rest.isEmpty document)⟩ := by
  cases step with
  | key name =>
      cases document with
      | object members => cases refused
      | _ => rfl
  | index position =>
      cases document with
      | array items =>
          simp only [Step.enter?] at refused
          simp only [assign, refused, Step.refusal]
      | _ => rfl
  | slice start stop => cases document <;> rfl

section

variable {step : Step} {document child : Document}

/-- What was put back is entered next. -/
theorem Step.enter?_putBack_self (entered : step.enter? document = some child)
    (below : Document) : step.enter? (step.putBack below document) = some below := by
  cases step with
  | key name =>
      cases document with
      | object members => simp [Step.enter?, Step.putBack]
      | _ => cases entered
  | index position =>
      cases document with
      | array items => exact itemAt?_set_self entered below
      | _ => cases entered
  | slice start stop => cases entered

/-- Of two documents that are put back the second one counts. -/
theorem Step.putBack_putBack (step : Step) (first second document : Document) :
    step.putBack second (step.putBack first document) = step.putBack second document := by
  cases step with
  | key name =>
      cases document with
      | object members => exact congrArg Document.object (Members.insert_insert ..)
      | _ => rfl
  | index position =>
      cases document with
      | array items => exact congrArg Document.array (List.set_set ..)
      | _ => rfl
  | slice start stop => rfl

/-- Different steps do not see each other. -/
theorem Step.enter?_putBack_of_ne (entered : step.enter? document = some child)
    {other : Step} (differ : step ≠ other) (below : Document) :
    other.enter? (step.putBack below document) = other.enter? document := by
  cases step with
  | key name =>
      cases document with
      | object members =>
          cases other with
          | key second =>
              have elsewhere : second ≠ name := fun same => differ (by rw [same])
              simp only [Step.enter?, Step.putBack, Members.get?_insert_of_ne elsewhere]
          | index _ | slice _ _ => rfl
      | _ => cases entered
  | index position =>
      cases document with
      | array items =>
          cases other with
          | index second =>
              have elsewhere : position ≠ second := fun same => differ (by rw [same])
              exact itemAt?_set_of_ne entered elsewhere below
          | key _ | slice _ _ => rfl
      | _ => cases entered
  | slice start stop => cases entered

theorem Step.refusal_putBack (step other : Step) (isLast : Bool) (below document : Document) :
    other.refusal isLast (step.putBack below document) = other.refusal isLast document := by
  cases step <;> cases document <;> cases other <;> rfl

theorem Step.putBack_comm (entered : step.enter? document = some child) {other : Step}
    {otherChild : Document} (otherEntered : other.enter? document = some otherChild)
    (differ : step ≠ other) (below otherBelow : Document) :
    other.putBack otherBelow (step.putBack below document) =
      step.putBack below (other.putBack otherBelow document) := by
  cases step with
  | key name =>
      cases document with
      | object members =>
          cases other with
          | key second =>
              have elsewhere : second ≠ name := fun same => differ (by rw [same])
              exact congrArg Document.object (Members.insert_comm elsewhere ..)
          | index _ | slice _ _ => cases otherEntered
      | _ => cases entered
  | index position =>
      cases document with
      | array items =>
          cases other with
          | index second =>
              have counted : 0 ≤ position := (itemAt?_eq_some.mp entered).1
              have otherCounted : 0 ≤ second := (itemAt?_eq_some.mp otherEntered).1
              have elsewhere : position.toNat ≠ second.toNat := by
                intro same
                exact differ (congrArg Step.index (by omega))
              exact congrArg Document.array (List.set_comm _ _ elsewhere)
          | key _ | slice _ _ => cases otherEntered
      | _ => cases entered
  | slice start stop => cases entered

/-- Two assignments that enter at the same step. -/
theorem assign_cons_again (entered : step.enter? document = some child)
    (value other : Document) (rest after : List Step) :
    assign other (step :: after) (assign value (step :: rest) document).document =
      ⟨step.putBack (assign other after (assign value rest child).document).document document,
        (assign other after (assign value rest child).document).fault⟩ := by
  rw [assign_cons_of_entered entered,
    assign_cons_of_entered (Step.enter?_putBack_self entered _), Step.putBack_putBack]

end

end Path

theorem Document.assign_of_read {expression : String} {steps : List Path.Step}
    (parsed : Path.read expression = .ok ⟨.document, steps⟩) (document value : Document) :
    document.assign expression value =
      ((Path.assign value steps document).document,
        (Path.assign value steps document).fault.elim (.ok ()) fun fault =>
          .error (fault.toFailure expression)) := by
  unfold Document.assign
  rw [parsed]
  cases assigned : Path.assign value steps document with
  | mk result fault =>
      cases fault with
      | none => simp [assigned]
      | some fault => simp [assigned]

end StatesLanguage
