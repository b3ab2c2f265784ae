import StatesLanguage.Failure

/-!
# Outcomes of steps in turn

A step that may fail has a value or a failure as its outcome.  The first half of this
file reads the outcome of a chain of steps back into the outcomes of its parts, and its
failure into the first one in the chain.  The second half bounds the failures of a chain
by those of its parts.
-/

namespace StatesLanguage

namespace Outcome

variable {ε δ α β : Type}

theorem bind_eq_ok {first : Except ε α} {rest : α → Except ε β} {value : β} :
    (first >>= rest) = .ok value ↔
      ∃ middle, first = .ok middle ∧ rest middle = .ok value := by
  cases first with
  | error failure => simp [bind, Except.bind]
  | ok middle => simp [bind, Except.bind]

theorem bind_eq_error {first : Except ε α} {rest : α → Except ε β} {failure : ε} :
    (first >>= rest) = .error failure ↔
      first = .error failure ∨
        ∃ middle, first = .ok middle ∧ rest middle = .error failure := by
  cases first with
  | error other => simp [bind, Except.bind]
  | ok middle => simp [bind, Except.bind]

theorem map_eq_ok {function : α → β} {result : Except ε α} {value : β} :
    result.map function = .ok value ↔
      ∃ middle, result = .ok middle ∧ function middle = value := by
  cases result with
  | error failure => simp [Except.map]
  | ok middle => simp [Except.map]

theorem map_eq_error {function : α → β} {result : Except ε α} {failure : ε} :
    result.map function = .error failure ↔ result = .error failure := by
  cases result with
  | error other => simp [Except.map]
  | ok middle => simp [Except.map]

theorem bind_ok {function : α → β} {result : Except ε α} :
    (result >>= fun value => .ok (function value)) = result.map function := by
  cases result with
  | error failure => rfl
  | ok value => rfl

theorem map_map {γ : Type} {function : α → β} {other : β → γ} {result : Except ε α} :
    (result.map function).map other = result.map fun value => other (function value) := by
  cases result with
  | error failure => rfl
  | ok value => rfl

theorem map_eq_self {function : α → α} {result : Except ε α}
    (same : ∀ value, function value = value) : result.map function = result := by
  cases result with
  | error failure => rfl
  | ok value => rw [Except.map, same]

theorem mapError_eq_ok {function : ε → δ} {result : Except ε α} {value : α} :
    result.mapError function = .ok value ↔ result = .ok value := by
  cases result with
  | error failure => exact ⟨nofun, nofun⟩
  | ok middle => constructor <;> (intro same; cases same; rfl)

/-- Steps in turn succeed exactly if each of them does. -/
theorem forM_eq_ok_iff {step : α → Except ε Unit} {items : List α} :
    items.forM step = .ok () ↔ ∀ item, item ∈ items → step item = .ok () := by
  induction items with
  | nil => simp [List.forM, pure, Except.pure]
  | cons item rest induction =>
      rw [List.forM, bind_eq_ok, List.forall_mem_cons, ← induction]
      constructor
      · rintro ⟨_, done, later⟩
        exact ⟨done, later⟩
      · rintro ⟨done, later⟩
        exact ⟨(), done, later⟩

/-- Steps in turn fail as one of them does. -/
theorem exists_of_forM_eq_error {step : α → Except ε Unit} {items : List α} {failure : ε}
    (failed : items.forM step = .error failure) :
    ∃ item, item ∈ items ∧ step item = .error failure := by
  induction items with
  | nil => cases failed
  | cons item rest induction =>
      rcases bind_eq_error.mp failed with stopped | ⟨_, _, later⟩
      · exact ⟨item, List.mem_cons_self, stopped⟩
      · obtain ⟨other, member, stopped⟩ := induction later
        exact ⟨other, List.mem_cons_of_mem _ member, stopped⟩

/-- The failure of an outcome, if it is one. -/
def failure? : Except ε α → Option ε
  | .ok _ => none
  | .error failure => some failure

theorem failure?_eq_some_iff {result : Except ε α} {failure : ε} :
    failure? result = some failure ↔ result = .error failure := by
  cases result with
  | error other => simp [failure?]
  | ok value => simp [failure?]

theorem failure?_eq_none_iff {result : Except ε α} :
    failure? result = none ↔ ∃ value, result = .ok value := by
  cases result with
  | error other => simp [failure?]
  | ok value => simp [failure?]

theorem failure?_map {function : α → β} {result : Except ε α} :
    failure? (result.map function) = failure? result := by
  cases result with
  | error failure => rfl
  | ok value => rfl

/-- A step fails first, or else what comes after it does. -/
theorem failure?_bind {first : Except ε α} {next : α → Except ε β} {later : Option ε}
    (each : ∀ value, failure? (next value) = later) :
    failure? (first >>= next) = (failure? first).or later := by
  cases first with
  | error failure => rfl
  | ok value => exact each value

/-- Every failure of an outcome is of some kind. -/
def FailsOnly (kind : ε → Prop) (result : Except ε α) : Prop :=
  ∀ failure, result = .error failure → kind failure

namespace FailsOnly

variable {kind : ε → Prop}

theorem ok (value : α) : FailsOnly kind (.ok value : Except ε α) := by
  intro failure failed
  cases failed

theorem error {failure : ε} (holds : kind failure) :
    FailsOnly kind (.error failure : Except ε α) := by
  intro other failed
  cases failed
  exact holds

theorem bind {first : Except ε α} {rest : α → Except ε β}
    (early : FailsOnly kind first)
    (late : ∀ value, first = .ok value → FailsOnly kind (rest value)) :
    FailsOnly kind (first >>= rest) := by
  intro failure failed
  rcases bind_eq_error.mp failed with stopped | ⟨value, reached, stopped⟩
  · exact early failure stopped
  · exact late value reached failure stopped

theorem map {result : Except ε α} (function : α → β)
    (bounded : FailsOnly kind result) : FailsOnly kind (result.map function) := by
  intro failure failed
  cases result with
  | error other =>
      cases failed
      exact bounded _ rfl
  | ok value => cases failed

theorem mapError {function : δ → ε} (result : Except δ α)
    (all : ∀ fault, kind (function fault)) :
    FailsOnly kind (result.mapError function) := by
  cases result with
  | error fault => exact error (all fault)
  | ok value => exact ok value

end FailsOnly

end Outcome

end StatesLanguage
