import StatesLanguage.Proofs.Entry

/-!
# Assignments in any order

Two lists of steps diverge if neither continues the other.  Assignments along diverging
steps leave the same document in either order, and each of them fails or not as it does
alone, also where the other one fails half-way and leaves new objects on the common steps.
-/

namespace StatesLanguage

namespace Path

/-- Some common steps, and then two different ones. -/
inductive Diverge : List Step → List Step → Prop where
  | here {first second : Step} {rest after : List Step} (differ : first ≠ second) :
      Diverge (first :: rest) (second :: after)
  | later {step : Step} {rest after : List Step} (diverge : Diverge rest after) :
      Diverge (step :: rest) (step :: after)

theorem Diverge.of_not_prefix {steps others : List Step} (notWithin : ¬ steps <+: others)
    (notAround : ¬ others <+: steps) : Diverge steps others := by
  induction steps generalizing others with
  | nil => exact (notWithin List.nil_prefix).elim
  | cons first rest induction =>
      cases others with
      | nil => exact (notAround List.nil_prefix).elim
      | cons second after =>
          by_cases same : first = second
          · subst same
            refine .later (induction ?_ ?_)
            · intro within
              exact notWithin (List.cons_prefix_cons.mpr ⟨rfl, within⟩)
            · intro around
              exact notAround (List.cons_prefix_cons.mpr ⟨rfl, around⟩)
          · exact .here same

theorem Diverge.symm {steps others : List Step} (diverge : Diverge steps others) :
    Diverge others steps := by
  induction diverge with
  | here differ => exact .here (Ne.symm differ)
  | later diverge induction => exact .later induction

theorem enter?_assign_of_ne {first second : Step} (differ : first ≠ second)
    (value document : Document) (rest : List Step) :
    second.enter? (assign value (first :: rest) document).document =
      second.enter? document := by
  cases entered : first.enter? document with
  | none => rw [assign_cons_of_refused entered]
  | some child =>
      rw [assign_cons_of_entered entered]
      exact Step.enter?_putBack_of_ne entered differ _

theorem refusal_assign (first second : Step) (isLast : Bool) (value document : Document)
    (rest : List Step) :
    second.refusal isLast (assign value (first :: rest) document).document =
      second.refusal isLast document := by
  cases entered : first.enter? document with
  | none => rw [assign_cons_of_refused entered]
  | some child =>
      rw [assign_cons_of_entered entered]
      exact Step.refusal_putBack ..

/-- An assignment fails after another one as it does without it. -/
theorem Diverge.fault_eq {steps others : List Step} (diverge : Diverge steps others)
    (value other document : Document) :
    (assign other others (assign value steps document).document).fault =
      (assign other others document).fault := by
  induction diverge generalizing document with
  | @here first second rest after differ =>
      have unseen := enter?_assign_of_ne differ value document rest
      cases entered : second.enter? document with
      | none =>
          rw [entered] at unseen
          rw [assign_cons_of_refused unseen, assign_cons_of_refused entered, refusal_assign]
      | some child =>
          rw [entered] at unseen
          rw [assign_cons_of_entered unseen, assign_cons_of_entered entered]
  | @later step rest after diverge induction =>
      cases entered : step.enter? document with
      | none => rw [assign_cons_of_refused entered]
      | some child =>
          rw [assign_cons_again entered, assign_cons_of_entered entered]
          exact induction child

/-- Two assignments leave the same document in either order. -/
theorem Diverge.document_eq {steps others : List Step} (diverge : Diverge steps others)
    (value other document : Document) :
    (assign other others (assign value steps document).document).document =
      (assign value steps (assign other others document).document).document := by
  induction diverge generalizing document with
  | @here first second rest after differ =>
      have unseen := enter?_assign_of_ne differ value document rest
      have otherUnseen := enter?_assign_of_ne (Ne.symm differ) other document after
      cases entered : first.enter? document with
      | none =>
          rw [entered] at otherUnseen
          rw [assign_cons_of_refused otherUnseen, assign_cons_of_refused entered]
      | some child =>
          cases otherEntered : second.enter? document with
          | none =>
              rw [otherEntered] at unseen
              rw [assign_cons_of_refused unseen, assign_cons_of_refused otherEntered]
          | some otherChild =>
              rw [entered] at otherUnseen
              rw [otherEntered] at unseen
              rw [assign_cons_of_entered unseen, assign_cons_of_entered otherUnseen,
                assign_cons_of_entered entered, assign_cons_of_entered otherEntered]
              exact Step.putBack_comm entered otherEntered differ _ _
  | @later step rest after diverge induction =>
      cases entered : step.enter? document with
      | none =>
          rw [assign_cons_of_refused entered, assign_cons_of_refused entered,
            assign_cons_of_refused entered]
      | some child =>
          rw [assign_cons_again entered, assign_cons_again entered, induction child]

end Path

namespace Document

/-- Assignments at paths neither of which continues the other can change places: the same
document is left, and each succeeds or fails in the same way. -/
theorem assign_change_places {expression other : String} {steps others : List Path.Step}
    (parsed : Path.read expression = .ok ⟨.document, steps⟩)
    (otherParsed : Path.read other = .ok ⟨.document, others⟩)
    (notWithin : ¬ steps <+: others) (notAround : ¬ others <+: steps)
    (document value otherValue : Document) :
    ((document.assign expression value).1.assign other otherValue).1 =
        ((document.assign other otherValue).1.assign expression value).1 ∧
      ((document.assign other otherValue).1.assign expression value).2 =
        (document.assign expression value).2 ∧
      ((document.assign expression value).1.assign other otherValue).2 =
        (document.assign other otherValue).2 := by
  have diverge := Path.Diverge.of_not_prefix notWithin notAround
  simp only [assign_of_read parsed, assign_of_read otherParsed]
  refine ⟨diverge.document_eq value otherValue document, ?_, ?_⟩
  · rw [diverge.symm.fault_eq otherValue value document]
  · rw [diverge.fault_eq value otherValue document]

/-- Both assignments add the member that their paths share, and one of them then fails. -/
theorem orders_assign_change_places :
    ((orders [("id", .ofNat 7)]).assign "$.orders[0].total.tags[2]" (.string "new")).1.assign
        "$.orders[0].total.net" (.ofNat 1) =
      (orders [("id", .ofNat 7),
        ("total", .object [("net", .ofNat 1), ("tags", .empty)])], .ok ()) ∧
    ((orders [("id", .ofNat 7)]).assign "$.orders[0].total.net" (.ofNat 1)).1.assign
        "$.orders[0].total.tags[2]" (.string "new") =
      (orders [("id", .ofNat 7),
        ("total", .object [("net", .ofNat 1), ("tags", .empty)])],
        .error (.invalidPath "$.orders[0].total.tags[2] (cannot assign into a scalar)")) := by
  have parsed : Path.read "$.orders[0].total.tags[2]" =
      .ok ⟨.document, [.key "orders", .index 0, .key "total", .key "tags", .index 2]⟩ := by
    decide +kernel
  have otherParsed : Path.read "$.orders[0].total.net" =
      .ok ⟨.document, [.key "orders", .index 0, .key "total", .key "net"]⟩ := by
    decide +kernel
  have alone : ((orders [("id", .ofNat 7)]).assign "$.orders[0].total.tags[2]"
      (.string "new")).2 =
        .error (.invalidPath "$.orders[0].total.tags[2] (cannot assign into a scalar)") := by
    decide +kernel
  have later : ((orders [("id", .ofNat 7)]).assign "$.orders[0].total.tags[2]"
      (.string "new")).1.assign "$.orders[0].total.net" (.ofNat 1) =
        (orders [("id", .ofNat 7),
          ("total", .object [("net", .ofNat 1), ("tags", .empty)])], .ok ()) := by
    decide +kernel
  obtain ⟨documents, -, outcome⟩ := assign_change_places otherParsed parsed (by decide)
    (by decide) (orders [("id", .ofNat 7)]) (.ofNat 1) (.string "new")
  have left := documents.trans (congrArg Prod.fst later)
  exact ⟨later, Prod.ext left (outcome.trans alone)⟩

end Document

end StatesLanguage
