import StatesLanguage.Proofs.Entry

/-!
# What a failed assignment leaves

An assignment that fails leaves the document as it was, or with a single new member: the
first name on its way that was missing, with empty objects for the names that follow.
Everything else is kept, the value does not matter, and trying again changes nothing.
-/

namespace StatesLanguage

namespace Document

/-- Equal scalars, arrays of one length, or two objects. -/
def SameForm : Document → Document → Prop
  | .array items, .array others => items.length = others.length
  | .object _, .object _ => True
  | document, other => document = other

theorem SameForm.refl (document : Document) : document.SameForm document := by
  cases document <;> trivial

/-- Every member and every item of the first document is in the second one, in the same
place, arrays are as long as they were, and scalars are what they were. -/
def Keeps (document other : Document) : Prop :=
  ∀ steps found, (∀ step ∈ steps, Path.Step.IsSingular step) →
    Path.follow steps document = .ok found →
      ∃ kept, Path.follow steps other = .ok kept ∧ found.SameForm kept

theorem Keeps.refl (document : Document) : document.Keeps document :=
  fun _ found _ follows => ⟨found, follows, SameForm.refl found⟩

theorem keeps_object {members others : List (String × Document)}
    (each : ∀ name child, Members.get? name members = some child →
      ∃ kept, Members.get? name others = some kept ∧ child.Keeps kept) :
    (Document.object members).Keeps (.object others) := by
  intro steps found singular follows
  cases steps with
  | nil =>
      cases follows
      exact ⟨.object others, rfl, trivial⟩
  | cons step rest =>
      obtain ⟨first, later⟩ := List.forall_mem_cons.mp singular
      cases step with
      | key name =>
          obtain ⟨child, there, follows⟩ := Path.follow_key_object.mp follows
          obtain ⟨kept, still, keeps⟩ := each name child there
          obtain ⟨last, follows, form⟩ := keeps rest found later follows
          exact ⟨last, Path.follow_key_object.mpr ⟨kept, still, follows⟩, form⟩
      | index position => cases follows
      | slice start stop => exact first.elim

theorem keeps_array {items others : List Document} (length : items.length = others.length)
    (each : ∀ position child, Path.itemAt? items position = some child →
      ∃ kept, Path.itemAt? others position = some kept ∧ child.Keeps kept) :
    (Document.array items).Keeps (.array others) := by
  intro steps found singular follows
  cases steps with
  | nil =>
      cases follows
      exact ⟨.array others, rfl, length⟩
  | cons step rest =>
      obtain ⟨first, later⟩ := List.forall_mem_cons.mp singular
      cases step with
      | key name => cases follows
      | index position =>
          obtain ⟨child, there, follows⟩ := Path.follow_index_array.mp follows
          obtain ⟨kept, still, keeps⟩ := each position child there
          obtain ⟨last, follows, form⟩ := keeps rest found later follows
          exact ⟨last, Path.follow_index_array.mpr ⟨kept, still, follows⟩, form⟩
      | slice start stop => exact first.elim

/-- The second document is the first one with a new member, before the first greater name, in
the object where the steps lead. -/
inductive Gains (name : String) (value : Document) :
    List Path.Step → Document → Document → Prop where
  | here {before after : List (String × Document)}
      (fresh : name ∉ Members.names (before ++ after))
      (behind : ∀ member ∈ before, ¬ name < member.1)
      (ahead : ∀ member ∈ after.head?, name < member.1) :
      Gains name value [] (.object (before ++ after))
        (.object (before ++ (name, value) :: after))
  | member {key : String} {steps : List Path.Step} {before after : List (String × Document)}
      {child larger : Document} (first : key ∉ Members.names before)
      (gains : Gains name value steps child larger) :
      Gains name value (.key key :: steps) (.object (before ++ (key, child) :: after))
        (.object (before ++ (key, larger) :: after))
  | item {steps : List Path.Step} {before after : List Document} {child larger : Document}
      (gains : Gains name value steps child larger) :
      Gains name value (.index before.length :: steps) (.array (before ++ child :: after))
        (.array (before ++ larger :: after))

theorem Gains.keeps {name : String} {value document larger : Document}
    {place : List Path.Step} (gains : Gains name value place document larger) :
    document.Keeps larger := by
  induction gains with
  | @here before after fresh behind ahead =>
      apply keeps_object
      intro key child there
      have other : name ≠ key := by
        rintro rfl
        rw [Members.get?_eq_none_iff.mpr fresh] at there
        cases there
      rw [Members.get?_append] at there ⊢
      rw [Members.get?, if_neg other]
      exact ⟨child, there, .refl child⟩
  | @member key steps before after child larger first gains induction =>
      apply keeps_object
      intro other found there
      rcases Members.get?_replaced there larger with still | ⟨rfl, replaced⟩
      · exact ⟨found, still, .refl found⟩
      · exact ⟨larger, replaced, induction⟩
  | @item steps before after child larger gains induction =>
      apply keeps_array (by simp)
      intro position found there
      rcases Path.itemAt?_replaced there larger with still | ⟨rfl, replaced⟩
      · exact ⟨found, still, .refl found⟩
      · exact ⟨larger, replaced, induction⟩

/-- Objects inside one another under these names; the innermost one is empty. -/
def nest : List String → Document
  | [] => .empty
  | name :: names => .object [(name, nest names)]

end Document

namespace Path

open Document (Gains nest)

/-- The first name of the steps that is missing is added, with an empty object for each name
that follows it; the step behind these is no name. -/
inductive Scaffolds : List Step → Document → Document → Prop where
  | intro {place : List Step} {name : String} {names : List String} {step : Step}
      {after : List Step} {document left : Document} (stops : ∀ other, step ≠ .key other)
      (gains : Gains name (nest names) place document left) :
      Scaffolds (place ++ .key name :: (names.map .key ++ step :: after)) document left

variable {value document : Document} {steps : List Step} {fault : Fault}

/-- What a failed assignment leaves does not depend on the value. -/
theorem assign_eq_of_fault (failed : (assign value steps document).fault = some fault)
    (other : Document) : assign other steps document = assign value steps document := by
  induction steps generalizing document with
  | nil => cases failed
  | cons step rest induction =>
      cases entered : step.enter? document with
      | none => rw [assign_cons_of_refused entered, assign_cons_of_refused entered]
      | some child =>
          rw [assign_cons_of_entered entered] at failed
          rw [assign_cons_of_entered entered, assign_cons_of_entered entered,
            induction failed]

/-- A failed assignment that is tried again changes nothing more. -/
theorem assign_again_of_fault (failed : (assign value steps document).fault = some fault) :
    assign value steps (assign value steps document).document =
      assign value steps document := by
  induction steps generalizing document with
  | nil => cases failed
  | cons step rest induction =>
      cases entered : step.enter? document with
      | none => rw [assign_cons_of_refused entered, assign_cons_of_refused entered]
      | some child =>
          rw [assign_cons_of_entered entered] at failed
          rw [assign_cons_again entered, induction failed, assign_cons_of_entered entered]

/-- In an empty object, names are added up to the step that fails. -/
theorem exists_nest_of_fault (failed : (assign value steps .empty).fault = some fault) :
    ∃ names step after, steps = names.map Step.key ++ step :: after ∧
      (∀ other, step ≠ .key other) ∧ (assign value steps .empty).document = nest names := by
  induction steps with
  | nil => cases failed
  | cons step rest induction =>
      cases step with
      | key name =>
          have entered : (Step.key name).enter? .empty = some .empty := rfl
          rw [assign_cons_of_entered entered] at failed
          obtain ⟨names, step, after, rfl, stops, left⟩ := induction failed
          refine ⟨name :: names, step, after, rfl, stops, ?_⟩
          rw [assign_cons_of_entered entered, left]
          rfl
      | index position => exact ⟨[], _, rest, rfl, nofun, rfl⟩
      | slice start stop => exact ⟨[], _, rest, rfl, nofun, rfl⟩

theorem Scaffolds.of_absent {name : String} {members : List (String × Document)}
    (absent : Members.get? name members = none)
    (failed : (assign value steps .empty).fault = some fault) :
    Scaffolds (.key name :: steps) (.object members)
      (.object (Members.insert name (assign value steps .empty).document members)) := by
  obtain ⟨names, step, after, rfl, stops, left⟩ := exists_nest_of_fault failed
  obtain ⟨before, others, behind, ahead, rfl, inserted⟩ :=
    Members.exists_split_of_absent absent (nest names)
  rw [left, inserted, ← List.nil_append (Step.key name :: _)]
  exact .intro stops (.here (Members.get?_eq_none_iff.mp absent) behind ahead)

theorem Scaffolds.of_member {name : String} {members : List (String × Document)}
    {child below : Document} (there : Members.get? name members = some child)
    (scaffolds : Scaffolds steps child below) :
    Scaffolds (.key name :: steps) (.object members)
      (.object (Members.insert name below members)) := by
  obtain ⟨before, others, first, rfl, inserted⟩ := Members.exists_split_of_get? there
  cases scaffolds with
  | intro stops gains =>
      rw [inserted, ← List.cons_append]
      exact .intro stops (.member first gains)

theorem Scaffolds.of_item {position : Int} {items : List Document} {child below : Document}
    (there : itemAt? items position = some child) (scaffolds : Scaffolds steps child below) :
    Scaffolds (.index position :: steps) (.array items)
      (.array (items.set position.toNat below)) := by
  obtain ⟨before, others, rfl, rfl, replaced⟩ := exists_split_of_itemAt? there
  cases scaffolds with
  | intro stops gains =>
      rw [replaced, ← List.cons_append]
      exact .intro stops (.item gains)

theorem left_of_fault (failed : (assign value steps document).fault = some fault) :
    (assign value steps document).document = document ∨
      Scaffolds steps document (assign value steps document).document := by
  induction steps generalizing document with
  | nil => cases failed
  | cons step rest induction =>
      cases entered : step.enter? document with
      | none =>
          rw [assign_cons_of_refused entered]
          exact .inl rfl
      | some child =>
          rw [assign_cons_of_entered entered] at failed ⊢
          cases step with
          | key name =>
              cases document with
              | object members =>
                  cases there : Members.get? name members with
                  | none =>
                      have fresh : child = .empty := by
                        simpa [Step.enter?, there] using entered.symm
                      subst fresh
                      exact .inr (.of_absent there failed)
                  | some old =>
                      have known : child = old := by
                        simpa [Step.enter?, there] using entered.symm
                      subst known
                      refine (induction failed).imp ?_ (.of_member there)
                      intro same
                      rw [same]
                      exact congrArg Document.object (Members.insert_of_get? there)
              | _ => cases entered
          | index position =>
              cases document with
              | array items =>
                  refine (induction failed).imp ?_ (.of_item entered)
                  intro same
                  rw [same]
                  exact congrArg Document.array (set_of_itemAt? entered)
              | _ => cases entered
          | slice start stop => cases entered

theorem keeps_of_fault (failed : (assign value steps document).fault = some fault) :
    document.Keeps (assign value steps document).document := by
  rcases left_of_fault failed with same | scaffolds
  · rw [same]
    exact .refl document
  · cases scaffolds with
    | intro stops gains => exact gains.keeps

end Path

namespace Document

/-- At an expression that is no path of documents, every assignment is refused. -/
theorem exists_refusal {expression : String}
    (unread : ∀ steps, Path.read expression ≠ .ok ⟨.document, steps⟩) :
    ∃ failure, ∀ document value : Document,
      document.assign expression value = (document, .error failure) := by
  unfold Document.assign
  cases parsed : Path.read expression with
  | error fault => exact ⟨_, fun document value => rfl⟩
  | ok path =>
      obtain ⟨root, steps⟩ := path
      cases root with
      | context => exact ⟨_, fun document value => rfl⟩
      | document => exact absurd parsed (unread steps)

/-- A failed assignment leaves the document as it was or, at a path of documents, with a
single new member that holds nothing but empty objects.  All that was there is kept, the
value plays no part in it, and the same assignment fails again in the same way and changes
nothing more. -/
theorem left_of_failed_assign {document value left : Document} {expression : String}
    {failure : Failure}
    (failed : document.assign expression value = (left, .error failure)) :
    (∀ steps, Path.read expression = .ok ⟨.document, steps⟩ →
      left = document ∨ Path.Scaffolds steps document left) ∧
    ((∀ steps, Path.read expression ≠ .ok ⟨.document, steps⟩) → left = document) ∧
    document.Keeps left ∧
    (∀ other, document.assign expression other = (left, .error failure)) ∧
    left.assign expression value = (left, .error failure) := by
  by_cases readable : ∃ steps, Path.read expression = .ok ⟨.document, steps⟩
  · obtain ⟨steps, parsed⟩ := readable
    rw [assign_of_read parsed] at failed
    cases faulty : (Path.assign value steps document).fault with
    | none => simp [faulty] at failed
    | some fault =>
        rw [faulty] at failed
        cases failed
        refine ⟨?_, ?_, Path.keeps_of_fault faulty, ?_, ?_⟩
        · intro others same
          rw [parsed] at same
          cases same
          exact Path.left_of_fault faulty
        · intro unread
          exact absurd parsed (unread steps)
        · intro other
          rw [assign_of_read parsed, Path.assign_eq_of_fault faulty, faulty]
          rfl
        · rw [assign_of_read parsed, Path.assign_again_of_fault faulty, faulty]
          rfl
  · have unread := not_exists.mp readable
    obtain ⟨reason, refused⟩ := exists_refusal unread
    rw [refused] at failed
    cases failed
    refine ⟨?_, fun _ => rfl, .refl document, refused document, refused document value⟩
    intro steps parsed
    exact absurd parsed (unread steps)

/-- An order that gains an empty table of tags, since the table has no items. -/
theorem orders_left_of_failed_assign :
    (orders [("id", .ofNat 7)]).assign "$.orders[0].total.tags[2].kind" (.string "new") =
      (orders [("id", .ofNat 7), ("total", .object [("tags", .empty)])],
        .error (.invalidPath "$.orders[0].total.tags[2].kind (cannot traverse a scalar)")) ∧
    Path.Scaffolds
      [.key "orders", .index 0, .key "total", .key "tags", .index 2, .key "kind"]
      (orders [("id", .ofNat 7)])
      (orders [("id", .ofNat 7), ("total", .object [("tags", .empty)])]) ∧
    (orders [("id", .ofNat 7), ("total", .object [("tags", .empty)])]).assign
        "$.orders[0].total.tags[2].kind" (.string "new") =
      (orders [("id", .ofNat 7), ("total", .object [("tags", .empty)])],
        .error (.invalidPath "$.orders[0].total.tags[2].kind (cannot traverse a scalar)")) := by
  have failed : (orders [("id", .ofNat 7)]).assign "$.orders[0].total.tags[2].kind"
      (.string "new") =
        (orders [("id", .ofNat 7), ("total", .object [("tags", .empty)])],
          .error (.invalidPath
            "$.orders[0].total.tags[2].kind (cannot traverse a scalar)")) := by
    decide +kernel
  have parsed : Path.read "$.orders[0].total.tags[2].kind" =
      .ok ⟨.document,
        [.key "orders", .index 0, .key "total", .key "tags", .index 2, .key "kind"]⟩ := by
    decide +kernel
  have changed : orders [("id", .ofNat 7), ("total", .object [("tags", .empty)])] ≠
      orders [("id", .ofNat 7)] := by
    decide +kernel
  obtain ⟨left, -, -, -, again⟩ := left_of_failed_assign failed
  exact ⟨failed, (left _ parsed).resolve_left changed, again⟩

end Document

end StatesLanguage
