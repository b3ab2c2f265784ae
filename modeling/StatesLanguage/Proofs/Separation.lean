import StatesLanguage.Proofs.Assignment

/-!
# What an assignment leaves alone

Two paths are apart if neither continues the other and they first differ in steps to
single members or items.  An assignment along one of them does not change what the other
finds, also where it adds objects on its way.
-/

namespace StatesLanguage

namespace Path

/-- Neither list of steps continues the other, and where they first differ both go to a
single member or item. -/
structure Apart (steps others : List Step) : Prop where
  notWithin : ¬ steps <+: others
  notAround : ¬ others <+: steps
  singular : ∀ common first rest second after, steps = common ++ first :: rest →
    others = common ++ second :: after → first ≠ second →
      first.IsSingular ∧ second.IsSingular

/-- Some common steps, and then two different ones to single members or items. -/
inductive Forks : List Step → List Step → Prop where
  | here {first second : Step} {rest after : List Step} (differ : first ≠ second)
      (singular : first.IsSingular) (otherSingular : second.IsSingular) :
      Forks (first :: rest) (second :: after)
  | later {step : Step} {rest after : List Step} (forks : Forks rest after) :
      Forks (step :: rest) (step :: after)

theorem Forks.of_apart {steps others : List Step} (apart : Apart steps others) :
    Forks steps others := by
  induction steps generalizing others with
  | nil => exact (apart.notWithin List.nil_prefix).elim
  | cons first rest induction =>
      cases others with
      | nil => exact (apart.notAround List.nil_prefix).elim
      | cons second after =>
          by_cases same : first = second
          · subst same
            refine .later (induction ⟨?_, ?_, ?_⟩)
            · intro within
              exact apart.notWithin (List.cons_prefix_cons.mpr ⟨rfl, within⟩)
            · intro around
              exact apart.notAround (List.cons_prefix_cons.mpr ⟨rfl, around⟩)
            · intro common one left two right split otherSplit differ
              exact apart.singular (first :: common) one left two right
                (congrArg (first :: ·) split) (congrArg (first :: ·) otherSplit) differ
          · obtain ⟨singular, otherSingular⟩ :=
              apart.singular [] first rest second after rfl rfl same
            exact .here same singular otherSingular

theorem Forks.apart {steps others : List Step} (forks : Forks steps others) :
    Apart steps others := by
  induction forks with
  | @here first second rest after differ singular otherSingular =>
      constructor
      · intro within
        exact differ (List.cons_prefix_cons.mp within).1
      · intro around
        exact differ (List.cons_prefix_cons.mp around).1.symm
      · intro common one left two right split otherSplit distinct
        cases common with
        | nil =>
            cases split
            cases otherSplit
            exact ⟨singular, otherSingular⟩
        | cons shared common =>
            cases split
            cases otherSplit
            exact (differ rfl).elim
  | @later step rest after forks induction =>
      constructor
      · intro within
        exact induction.notWithin (List.cons_prefix_cons.mp within).2
      · intro around
        exact induction.notAround (List.cons_prefix_cons.mp around).2
      · intro common one left two right split otherSplit distinct
        cases common with
        | nil =>
            cases split
            cases otherSplit
            exact (distinct rfl).elim
        | cons shared common =>
            exact induction.singular common one left two right (List.cons.inj split).2
              (List.cons.inj otherSplit).2 distinct

theorem apart_iff_forks {steps others : List Step} :
    Apart steps others ↔ Forks steps others :=
  ⟨Forks.of_apart, Forks.apart⟩

/-- The empty object has nothing to find. -/
theorem follow_empty_ne_ok (step : Step) (rest : List Step) (value : Document) :
    follow (step :: rest) .empty ≠ .ok value := by
  intro found
  cases step <;> cases found

theorem Forks.follow_empty {steps others : List Step} (forks : Forks steps others)
    (found : Document) : follow others .empty ≠ .ok found := by
  cases forks with
  | here differ singular otherSingular => exact follow_empty_ne_ok _ _ found
  | later forks => exact follow_empty_ne_ok _ _ found

/-- An assignment is not seen along steps that fork from its own. -/
theorem Forks.follow_iff {steps others : List Step} (forks : Forks steps others)
    {value document left : Document} (assigned : Assigns value steps document left)
    (found : Document) :
    follow others left = .ok found ↔ follow others document = .ok found := by
  induction forks generalizing document left with
  | @here first second rest after differ singular otherSingular =>
      cases assigned with
      | @member name _ members below inner =>
          cases second with
          | key other =>
              have elsewhere : other ≠ name := fun same => differ (by rw [same])
              rw [follow_key_object, follow_key_object, Members.get?_insert_of_ne elsewhere]
          | index position => exact iff_of_false nofun nofun
          | slice start stop => exact otherSingular.elim
      | @item position _ items child below there inner =>
          cases second with
          | key other => exact iff_of_false nofun nofun
          | index other =>
              have elsewhere : position ≠ other := fun same => differ (by rw [same])
              rw [follow_index_array, follow_index_array, itemAt?_set_of_ne there elsewhere]
          | slice start stop => exact otherSingular.elim
  | @later step rest after forks induction =>
      cases assigned with
      | @member name _ members below inner =>
          rw [follow_key_object, follow_key_object, Members.get?_insert_self]
          cases there : Members.get? name members with
          | some child =>
              rw [there] at inner
              simpa using induction inner
          | none =>
              rw [there] at inner
              simpa [forks.follow_empty found] using induction inner
      | @item position _ items child below there inner =>
          rw [follow_index_array, follow_index_array, itemAt?_set_self there, there]
          simpa using induction inner

end Path

namespace Document

/-- An assignment changes nothing that a path apart from its own finds. -/
theorem resolve_assign_of_apart {document left value : Document} {expression other : String}
    {steps others : List Path.Step}
    (succeeded : document.assign expression value = (left, .ok ()))
    (parsed : Path.read expression = .ok ⟨.document, steps⟩)
    (otherParsed : Path.read other = .ok ⟨.document, others⟩)
    (apart : Path.Apart steps others) (context found : Document) :
    left.resolve other context = .ok found ↔ document.resolve other context = .ok found := by
  obtain ⟨same, sameParsed, assigned⟩ := assign_eq_ok.mp succeeded
  rw [parsed] at sameParsed
  cases sameParsed
  have unseen := (Path.Forks.of_apart apart).follow_iff assigned found
  have finds : ∀ start : Document, start.resolve other context = .ok found ↔
      Path.follow others start = .ok found := by
    intro start
    simp [resolve_eq_ok, otherParsed, Path.resolve, Path.Root.denote]
  rw [finds, finds]
  exact unseen

/-- An assignment that adds an object, and a slice of the member beside it. -/
theorem orders_resolve_assign :
    (orders [("tags", .array [.string "new", .string "gift"])]).assign
        "$.orders[0].total.net" (.ofNat 1) =
      (orders [("tags", .array [.string "new", .string "gift"]),
        ("total", .object [("net", .ofNat 1)])], .ok ()) ∧
    (orders [("tags", .array [.string "new", .string "gift"]),
        ("total", .object [("net", .ofNat 1)])]).resolve "$.orders[0].tags[1:]" .null =
      .ok (.array [.string "gift"]) := by
  have put : (orders [("tags", .array [.string "new", .string "gift"])]).assign
      "$.orders[0].total.net" (.ofNat 1) =
        (orders [("tags", .array [.string "new", .string "gift"]),
          ("total", .object [("net", .ofNat 1)])], .ok ()) := by
    decide +kernel
  have parsed : Path.read "$.orders[0].total.net" =
      .ok ⟨.document, [.key "orders", .index 0, .key "total", .key "net"]⟩ := by
    decide +kernel
  have otherParsed : Path.read "$.orders[0].tags[1:]" =
      .ok ⟨.document, [.key "orders", .index 0, .key "tags", .slice (some 1) none]⟩ := by
    decide +kernel
  have before : (orders [("tags", .array [.string "new", .string "gift"])]).resolve
      "$.orders[0].tags[1:]" .null = .ok (.array [.string "gift"]) := by
    decide +kernel
  have apart : Path.Apart [.key "orders", .index 0, .key "total", .key "net"]
      [.key "orders", .index 0, .key "tags", .slice (some 1) none] :=
    Path.apart_iff_forks.mpr (.later (.later (.here (by decide) trivial trivial)))
  exact ⟨put, (resolve_assign_of_apart put parsed otherParsed apart _ _).mpr before⟩

end Document

end StatesLanguage
