import StatesLanguage.Proofs.Lexicographic
import StatesLanguage.Rule.Evaluation

/-!
# Comparisons

Texts are compared as they are, and timestamps by the instants that they name.  Either kind
is compared by keys that are in a linear order, and whatever is compared so makes its five
relations agree with one another.
-/

namespace StatesLanguage

instance : Ord Instant := ⟨Instant.compare⟩

instance : Std.TransOrd Instant :=
  inferInstanceAs (Std.TransCmp
    (compareLex (compareOn Instant.seconds) (compareOn Instant.nanoseconds)))

namespace Rule

/-- What a comparison finds at its path and for its operand. -/
structure Finds (input context : Document) (path : String) (operand : Operand)
    (left right : Document) : Prop where
  left : input.resolve path context = .ok left
  right : operand.resolve input context = .ok right

/-- What a comparison of a kind says. -/
def Kind.verdict (kind : Kind) (relation : Relation) (input context : Document)
    (path : String) (operand : Operand) : Except Failure Bool :=
  Comparison.evaluate ⟨path, .compare kind relation operand⟩ input context

theorem Finds.verdict_eq {input context : Document} {path : String} {operand : Operand}
    {left right : Document} (finds : Finds input context path operand left right)
    (kind : Kind) (relation : Relation) :
    kind.verdict relation input context path operand =
      .ok (related kind relation left right) := by
  rw [Kind.verdict, Comparison.evaluate, finds.left]
  simp only [Operator.evaluate, finds.right]
  rfl

/-- The relations of which one holds in each ordering. -/
def Relation.strict : List Relation :=
  [.lessThan, .equals, .greaterThan]

def Relation.ofOrdering : Ordering → Relation
  | .lt => .lessThan
  | .eq => .equals
  | .gt => .greaterThan

theorem Relation.holds_strict {relation : Relation} (strict : relation ∈ Relation.strict)
    (ordering : Ordering) :
    relation.holds ordering = decide (relation = ofOrdering ordering) := by
  simp only [Relation.strict, List.mem_cons, List.not_mem_nil, or_false] at strict
  rcases strict with rfl | rfl | rfl
  · cases ordering <;> rfl
  · cases ordering <;> rfl
  · cases ordering <;> rfl

theorem Relation.holds_lessThanEquals (ordering : Ordering) :
    lessThanEquals.holds ordering = (lessThan.holds ordering || equals.holds ordering) := by
  cases ordering <;> rfl

theorem Relation.holds_greaterThanEquals (ordering : Ordering) :
    greaterThanEquals.holds ordering =
      (greaterThan.holds ordering || equals.holds ordering) := by
  cases ordering <;> rfl

theorem Relation.holds_swap (ordering : Ordering) :
    greaterThan.holds ordering.swap = lessThan.holds ordering := by
  cases ordering <;> rfl

theorem Relation.holds_lessThanEquals_eq_isLE (ordering : Ordering) :
    lessThanEquals.holds ordering = ordering.isLE := by
  cases ordering <;> rfl

/-- The relations of a kind agree with one another.  The values of the kind are those that
have a key. -/
structure Kind.Coherent {Key : Type} (kind : Kind) (key? : Document → Option Key) :
    Prop where
  exactlyOne : ∀ {input context path operand left right},
    Finds input context path operand left right → (key? left).isSome → (key? right).isSome →
      ∃ one ∈ Relation.strict, ∀ relation ∈ Relation.strict,
        kind.verdict relation input context path operand = .ok (decide (relation = one))
  lessThanEquals : ∀ {input context path operand left right},
    Finds input context path operand left right → (key? left).isSome → (key? right).isSome →
      ∃ less equal, kind.verdict .lessThan input context path operand = .ok less ∧
        kind.verdict .equals input context path operand = .ok equal ∧
        kind.verdict .lessThanEquals input context path operand = .ok (less || equal)
  greaterThanEquals : ∀ {input context path operand left right},
    Finds input context path operand left right → (key? left).isSome → (key? right).isSome →
      ∃ greater equal, kind.verdict .greaterThan input context path operand = .ok greater ∧
        kind.verdict .equals input context path operand = .ok equal ∧
        kind.verdict .greaterThanEquals input context path operand = .ok (greater || equal)
  swap : ∀ {input context path other left right},
    Finds input context path (.path other) left right → (key? left).isSome →
      (key? right).isSome →
      kind.verdict .lessThan input context path (.path other) =
        kind.verdict .greaterThan input context other (.path path)
  reflexive : ∀ {input context path operand value},
    Finds input context path operand value value → (key? value).isSome →
      kind.verdict .lessThanEquals input context path operand = .ok true
  transitive : ∀ {input context first second left middle right}
    {nearer farther : Operand}, Finds input context first nearer left middle →
      Finds input context second farther middle right → (key? left).isSome →
      (key? middle).isSome → (key? right).isSome →
      kind.verdict .lessThanEquals input context first nearer = .ok true →
      kind.verdict .lessThanEquals input context second farther = .ok true →
      kind.verdict .lessThanEquals input context first farther = .ok true
  literal : ∀ {input context path other left right} (relation : Relation),
    Finds input context path (.path other) left right →
      kind.verdict relation input context path (.path other) =
        kind.verdict relation input context path (.literal right)
  mismatch : ∀ {input context path operand left right} (relation : Relation),
    Finds input context path operand left right →
      ¬((key? left).isSome ∧ (key? right).isSome) →
      kind.verdict relation input context path operand = .ok false

section

variable {Key : Type} [Ord Key] {kind : Kind} {key? : Document → Option Key}

/-- A kind compares its values by their keys. -/
def Kind.ComparesBy (kind : Kind) (key? : Document → Option Key) : Prop :=
  ∀ left right, kind.compare? left right = do
    let leftKey ← key? left
    let rightKey ← key? right
    pure (compare leftKey rightKey)

theorem Kind.ComparesBy.related_eq (compares : kind.ComparesBy key?) {left right : Document}
    {leftKey rightKey : Key} (leftHas : key? left = some leftKey)
    (rightHas : key? right = some rightKey) (relation : Relation) :
    related kind relation left right = relation.holds (compare leftKey rightKey) := by
  rw [related, compares, leftHas, rightHas]
  rfl

theorem Kind.ComparesBy.verdict_eq (compares : kind.ComparesBy key?)
    {input context : Document} {path : String} {operand : Operand} {left right : Document}
    (finds : Finds input context path operand left right)
    {leftKey rightKey : Key} (leftHas : key? left = some leftKey)
    (rightHas : key? right = some rightKey) (relation : Relation) :
    kind.verdict relation input context path operand =
      .ok (relation.holds (compare leftKey rightKey)) := by
  rw [finds.verdict_eq, compares.related_eq leftHas rightHas]

/-- One ordering decides all relations. -/
theorem Kind.ComparesBy.exists_ordering (compares : kind.ComparesBy key?)
    {input context : Document} {path : String} {operand : Operand} {left right : Document}
    (finds : Finds input context path operand left right) (leftKind : (key? left).isSome)
    (rightKind : (key? right).isSome) :
    ∃ ordering, ∀ relation,
      kind.verdict relation input context path operand = .ok (relation.holds ordering) := by
  obtain ⟨leftKey, leftHas⟩ := Option.isSome_iff_exists.mp leftKind
  obtain ⟨rightKey, rightHas⟩ := Option.isSome_iff_exists.mp rightKind
  exact ⟨_, compares.verdict_eq finds leftHas rightHas⟩

theorem Kind.ComparesBy.coherent [Std.TransOrd Key] (compares : kind.ComparesBy key?) :
    kind.Coherent key? where
  exactlyOne := by
    intro input context path operand left right finds leftKind rightKind
    obtain ⟨ordering, decides⟩ := compares.exists_ordering finds leftKind rightKind
    refine ⟨.ofOrdering ordering, ?_, ?_⟩
    · cases ordering <;> decide
    · intro relation strict
      rw [decides, Relation.holds_strict strict]
  lessThanEquals := by
    intro input context path operand left right finds leftKind rightKind
    obtain ⟨ordering, decides⟩ := compares.exists_ordering finds leftKind rightKind
    refine ⟨_, _, decides _, decides _, ?_⟩
    rw [decides, Relation.holds_lessThanEquals]
  greaterThanEquals := by
    intro input context path operand left right finds leftKind rightKind
    obtain ⟨ordering, decides⟩ := compares.exists_ordering finds leftKind rightKind
    refine ⟨_, _, decides _, decides _, ?_⟩
    rw [decides, Relation.holds_greaterThanEquals]
  swap := by
    intro input context path other left right finds leftKind rightKind
    obtain ⟨leftKey, leftHas⟩ := Option.isSome_iff_exists.mp leftKind
    obtain ⟨rightKey, rightHas⟩ := Option.isSome_iff_exists.mp rightKind
    have turned : Finds input context other (.path path) right left :=
      ⟨finds.right, finds.left⟩
    rw [compares.verdict_eq finds leftHas rightHas, compares.verdict_eq turned rightHas leftHas,
      ← Relation.holds_swap, ← Std.OrientedOrd.eq_swap]
  reflexive := by
    intro input context path operand value finds valueKind
    obtain ⟨key, has⟩ := Option.isSome_iff_exists.mp valueKind
    rw [compares.verdict_eq finds has has, Std.compare_self]
    rfl
  transitive := by
    intro input context first second left middle right nearer farther lower upper leftKind
      middleKind rightKind lowerHolds upperHolds
    obtain ⟨leftKey, leftHas⟩ := Option.isSome_iff_exists.mp leftKind
    obtain ⟨middleKey, middleHas⟩ := Option.isSome_iff_exists.mp middleKind
    obtain ⟨rightKey, rightHas⟩ := Option.isSome_iff_exists.mp rightKind
    have across : Finds input context first farther left right := ⟨lower.left, upper.right⟩
    rw [compares.verdict_eq lower leftHas middleHas,
      Relation.holds_lessThanEquals_eq_isLE, Except.ok.injEq] at lowerHolds
    rw [compares.verdict_eq upper middleHas rightHas,
      Relation.holds_lessThanEquals_eq_isLE, Except.ok.injEq] at upperHolds
    rw [compares.verdict_eq across leftHas rightHas, Relation.holds_lessThanEquals_eq_isLE,
      Std.TransOrd.isLE_trans lowerHolds upperHolds]
  literal := by
    intro input context path other left right relation finds
    have written : Finds input context path (.literal right) left right := ⟨finds.left, rfl⟩
    rw [finds.verdict_eq, written.verdict_eq]
  mismatch := by
    intro input context path operand left right relation finds mismatch
    have incomparable : kind.compare? left right = none := by
      rw [compares]
      cases leftHas : key? left with
      | none => rfl
      | some leftKey =>
          cases rightHas : key? right with
          | none => rfl
          | some rightKey => exact absurd (by simp [leftHas, rightHas]) mismatch
    rw [finds.verdict_eq, related, incomparable]
    rfl

end

/-- The instant of a timestamp. -/
def instant? (value : Document) : Option Instant :=
  value.string?.bind Timestamp.read?

theorem string_comparesBy : Kind.string.ComparesBy Document.string? :=
  fun _ _ => rfl

theorem timestamp_comparesBy : Kind.timestamp.ComparesBy instant? :=
  fun _ _ => rfl

theorem Finds.string_verdict_eq {input context : Document} {path : String} {operand : Operand}
    {left right : String} (finds : Finds input context path operand (.string left) (.string right))
    (relation : Relation) :
    Kind.string.verdict relation input context path operand =
      .ok (relation.holds (compare left right)) :=
  string_comparesBy.verdict_eq finds rfl rfl relation

theorem Finds.timestamp_verdict_eq {input context : Document} {path : String}
    {operand : Operand} {left right : String}
    (finds : Finds input context path operand (.string left) (.string right))
    {leftInstant rightInstant : Instant} (leftRead : Timestamp.read? left = some leftInstant)
    (rightRead : Timestamp.read? right = some rightInstant) (relation : Relation) :
    Kind.timestamp.verdict relation input context path operand =
      .ok (relation.holds (leftInstant.compare rightInstant)) :=
  timestamp_comparesBy.verdict_eq finds leftRead rightRead relation

/-- Texts and timestamps are in coherent orders.  That of texts is lexicographic by scalar
values, which is also the order of their UTF-8 bytes. -/
theorem string_and_timestamp_coherent :
    Kind.string.Coherent Document.string? ∧ Kind.timestamp.Coherent instant? ∧
      ∀ {input context path operand} {left right : String},
        Finds input context path operand (.string left) (.string right) →
        ∀ relation, Kind.string.verdict relation input context path operand =
            .ok (relation.holds
              (List.compareLex compare (Text.scalars left) (Text.scalars right))) ∧
          Kind.string.verdict relation input context path operand =
            .ok (relation.holds
              (List.compareLex compare (Text.bytes left) (Text.bytes right))) := by
  refine ⟨string_comparesBy.coherent, timestamp_comparesBy.coherent, ?_⟩
  intro input context path operand left right finds relation
  constructor
  · rw [finds.string_verdict_eq, ← List.compare_eq_compareLex, Text.compare_scalars]
  · rw [finds.string_verdict_eq, ← List.compare_eq_compareLex, Text.compare_bytes]

/-- Two texts that paths reach. -/
def delivery (sent due : String) : Document :=
  .object [("sent", .string sent), ("due", .string due)]

theorem delivery_finds (sent due : String) :
    Finds (delivery sent due) .null "$.sent" (.path "$.due") (.string sent) (.string due) :=
  ⟨by rfl, by rfl⟩

/-- Two spellings of one instant. -/
def respelled : Document :=
  delivery "2016-04-06T12:10:09+02:00" "2016-04-06T10:10:09Z"

theorem respelled_coherent :
    (∃ one ∈ Relation.strict, ∀ relation ∈ Relation.strict,
      Kind.string.verdict relation respelled .null "$.sent" (.path "$.due") =
        .ok (decide (relation = one))) ∧
    (∃ one ∈ Relation.strict, ∀ relation ∈ Relation.strict,
      Kind.timestamp.verdict relation respelled .null "$.sent" (.path "$.due") =
        .ok (decide (relation = one))) ∧
    Kind.string.verdict .lessThan respelled .null "$.sent" (.path "$.due") =
      Kind.string.verdict .greaterThan respelled .null "$.due" (.path "$.sent") ∧
    Kind.timestamp.verdict .equals respelled .null "$.sent" (.path "$.due") =
      Kind.timestamp.verdict .equals respelled .null "$.sent"
        (.literal (.string "2016-04-06T10:10:09Z")) ∧
    Kind.timestamp.verdict .lessThanEquals respelled .null "$.sent" (.literal (.ofNat 7)) =
      .ok false ∧
    Kind.string.verdict .greaterThan respelled .null "$.sent" (.path "$.due") = .ok true := by
  obtain ⟨texts, timestamps, bytewise⟩ := string_and_timestamp_coherent
  have finds := delivery_finds "2016-04-06T12:10:09+02:00" "2016-04-06T10:10:09Z"
  have number : Finds respelled .null "$.sent" (.literal (.ofNat 7))
      (.string "2016-04-06T12:10:09+02:00") (.ofNat 7) := ⟨finds.left, rfl⟩
  have left : (instant? (.string "2016-04-06T12:10:09+02:00")).isSome := by decide +kernel
  have right : (instant? (.string "2016-04-06T10:10:09Z")).isSome := by decide +kernel
  have other : ¬((instant? (.string "2016-04-06T12:10:09+02:00")).isSome ∧
      (instant? (.ofNat 7)).isSome) := fun both => absurd both.2 Bool.false_ne_true
  have greater := (bytewise finds .greaterThan).2
  exact ⟨texts.exactlyOne finds rfl rfl, timestamps.exactlyOne finds left right,
    texts.swap finds rfl rfl, timestamps.literal .equals finds,
    timestamps.mismatch .lessThanEquals number other, greater⟩

end Rule

end StatesLanguage
