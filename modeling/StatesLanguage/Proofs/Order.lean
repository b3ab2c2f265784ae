import StatesLanguage.Document.Reader
import StatesLanguage.Proofs.Members
import StatesLanguage.Proofs.Outcome

/-!
# Documents in order

A document is in order if every object in it names its members once, in ascending order.
What was read from text or set one after another is in order, and members in order are
determined by what is found under each name.
-/

namespace StatesLanguage

namespace Members

variable {α : Type}

/-- Names that ascend. -/
def Ascending (members : List (String × α)) : Prop :=
  (names members).Pairwise (· < ·)

instance (members : List (String × α)) : Decidable (Ascending members) :=
  inferInstanceAs (Decidable (List.Pairwise _ _))

theorem Ascending.distinct {members : List (String × α)} (ascending : Ascending members) :
    (names members).Nodup := by
  apply List.Pairwise.imp _ ascending
  intro left right before same
  rw [same] at before
  exact String.lt_irrefl right before

/-- A name that is greater than that of a member stands behind it. -/
theorem Ascending.mem_names_behind {name other : String} {value : α}
    {earlier later : List (String × α)}
    (ascending : Ascending (earlier ++ (other, value) :: later)) (greater : other < name)
    (present : name ∈ names (earlier ++ (other, value) :: later)) : name ∈ names later := by
  rw [names, List.map_append, List.map_cons] at present
  rw [Ascending, names, List.map_append, List.map_cons] at ascending
  rcases List.mem_append.mp present with before | here
  · have less := (List.pairwise_append.mp ascending).2.2 _ before _ List.mem_cons_self
    exact absurd less (String.lt_asymm greater)
  · rcases List.mem_cons.mp here with rfl | behind
    · exact absurd greater (String.lt_irrefl _)
    · exact behind

theorem ascending_place {name : String} {value : α} {members : List (String × α)}
    (absent : name ∉ names members) (ascending : Ascending members) :
    Ascending (place name value members) := by
  induction members with
  | nil => exact List.pairwise_singleton _ _
  | cons member rest induction =>
      obtain ⟨first, old⟩ := member
      obtain ⟨first_least, rest_ascending⟩ := List.pairwise_cons.mp ascending
      by_cases before : name < first
      · rw [place, if_pos before]
        apply List.Pairwise.cons _ ascending
        intro other present
        rcases List.mem_cons.mp present with rfl | later
        · exact before
        · exact String.lt_trans before (first_least other later)
      · have differ : first ≠ name := fun same => absent (same ▸ List.mem_cons_self)
        have behind : first < name :=
          Std.lt_of_le_of_ne (String.not_lt.mp before) differ
        have absent_rest : name ∉ names rest :=
          fun member => absent (List.mem_cons_of_mem _ member)
        rw [place, if_neg before]
        apply List.Pairwise.cons _ (induction absent_rest rest_ascending)
        intro other present
        rcases mem_names_place.mp present with rfl | later
        · exact behind
        · exact first_least other later

theorem ascending_insert (name : String) (value : α) {members : List (String × α)}
    (ascending : Ascending members) : Ascending (insert name value members) := by
  unfold insert
  split
  · rw [Ascending, names_replace]
    exact ascending
  · rename_i absent
    apply ascending_place _ ascending
    exact get?_eq_none_iff.mp (by simpa using absent)

theorem ascending_ofList (members : List (String × α)) : Ascending (ofList members) := by
  have folded : ∀ start : List (String × α), Ascending start →
      Ascending (members.foldl (fun result member => insert member.1 member.2 result)
        start) := by
    induction members with
    | nil => exact fun start ascending => ascending
    | cons member rest induction =>
        intro start ascending
        exact induction _ (ascending_insert member.1 member.2 ascending)
  exact folded [] List.Pairwise.nil

theorem Ascending.mem_iff {members : List (String × α)} (ascending : Ascending members)
    {name : String} {value : α} :
    (name, value) ∈ members ↔ get? name members = some value :=
  ⟨get?_of_mem ascending.distinct, mem_of_get?⟩

/-- Members in order are determined by what is found under each name. -/
theorem Ascending.ext {left right : List (String × α)} (left_ascending : Ascending left)
    (right_ascending : Ascending right)
    (same : ∀ name, get? name left = get? name right) : left = right := by
  have distinct : ∀ {members : List (String × α)}, Ascending members → members.Nodup := by
    intro members ascending
    apply List.Pairwise.imp _ (List.pairwise_map.mp ascending.distinct)
    exact fun differ same => differ (congrArg Prod.fst same)
  have permuted : left.Perm right := by
    apply (List.perm_ext_iff_of_nodup (distinct left_ascending)
      (distinct right_ascending)).mpr
    rintro ⟨name, value⟩
    rw [left_ascending.mem_iff, right_ascending.mem_iff, same]
  have refuted : ∀ first second : String × α, first ∈ left → second ∈ right →
      first.1 < second.1 → second.1 < first.1 → first = second := by
    intro first second _ _ before behind
    exact absurd behind (String.lt_asymm before)
  exact List.Perm.eq_of_pairwise refuted (List.pairwise_map.mp left_ascending)
    (List.pairwise_map.mp right_ascending) permuted

/-- Members in order are determined by their names and by what fills each of them. -/
theorem Ascending.eq_of_filled {fills : String → α → Prop} {left right : List (String × α)}
    (left_ascending : Ascending left) (right_ascending : Ascending right)
    (unique : ∀ name value other, fills name value → fills name other → value = other)
    (same : ∀ name, name ∈ names left ↔ name ∈ names right)
    (left_filled : ∀ name value, (name, value) ∈ left → fills name value)
    (right_filled : ∀ name value, (name, value) ∈ right → fills name value) :
    left = right := by
  apply left_ascending.ext right_ascending
  intro name
  have alike := not_congr (same name)
  rw [← get?_eq_none_iff, ← get?_eq_none_iff] at alike
  cases first : get? name left with
  | none => exact (alike.mp first).symm
  | some value =>
      cases second : get? name right with
      | none =>
          rw [alike.mpr second] at first
          cases first
      | some other =>
          have filled := left_filled name value (mem_of_get? first)
          have refilled := right_filled name other (mem_of_get? second)
          rw [unique name value other filled refilled]

/-- Members in order stay as they are when they are set one after another. -/
theorem Ascending.ofList_eq {members : List (String × α)} (ascending : Ascending members) :
    ofList members = members :=
  (ascending_ofList members).ext ascending (get?_ofList_of_nodup ascending.distinct)

/-- What is found among members that were set one after another is one of them. -/
theorem mem_of_get?_ofList {name : String} {value : α} {members : List (String × α)}
    (found : get? name (ofList members) = some value) : (name, value) ∈ members := by
  obtain ⟨before, after, rfl, _⟩ := exists_last_of_get?_ofList found
  exact List.mem_append_right _ List.mem_cons_self

end Members

namespace Document

/-- Every object in the document names its members once and in ascending order. -/
inductive Ordered : Document → Prop where
  | null : Ordered .null
  | bool (value : Bool) : Ordered (.bool value)
  | number (value : Number) : Ordered (.number value)
  | string (value : String) : Ordered (.string value)
  | array {items : List Document} (each : ∀ item, item ∈ items → Ordered item) :
      Ordered (.array items)
  | object {members : List (String × Document)} (ascending : Members.Ascending members)
      (each : ∀ name value, (name, value) ∈ members → Ordered value) :
      Ordered (.object members)

@[simp] theorem ordered_null : Document.null.Ordered := .null

@[simp] theorem ordered_bool (value : Bool) : (Document.bool value).Ordered := .bool value

@[simp] theorem ordered_ofNat (value : Nat) : (Document.ofNat value).Ordered := .number _

@[simp] theorem ordered_string (value : String) : (Document.string value).Ordered :=
  .string value

@[simp] theorem ordered_array_iff {items : List Document} :
    (Document.array items).Ordered ↔ ∀ item, item ∈ items → item.Ordered := by
  constructor
  · intro ordered
    cases ordered with
    | array each => exact each
  · exact .array

@[simp] theorem ordered_object_iff {members : List (String × Document)} :
    (Document.object members).Ordered ↔
      Members.Ascending members ∧ ∀ member, member ∈ members → member.2.Ordered := by
  constructor
  · intro ordered
    cases ordered with
    | object ascending each =>
        refine ⟨ascending, ?_⟩
        rintro ⟨name, value⟩ present
        exact each name value present
  · rintro ⟨ascending, each⟩
    apply Ordered.object ascending
    intro name value present
    exact each (name, value) present

theorem Ordered.ofMembers {members : List (String × Document)}
    (each : ∀ name value, (name, value) ∈ members → Ordered value) :
    Ordered (ofMembers members) := by
  apply Ordered.object (Members.ascending_ofList members)
  intro name value present
  have found := (Members.ascending_ofList members).mem_iff.mp present
  exact each name value (Members.mem_of_get?_ofList found)

theorem ordered_of_readNumber {negative : Bool} {text rest : List Char} {document : Document}
    (parsed : readNumber negative text = .ok (document, rest)) : document.Ordered := by
  obtain ⟨⟨_, _⟩, _, parsed⟩ := Outcome.bind_eq_ok.mp parsed
  obtain ⟨⟨_, _⟩, _, parsed⟩ := Outcome.bind_eq_ok.mp parsed
  obtain ⟨⟨_, _⟩, _, parsed⟩ := Outcome.bind_eq_ok.mp parsed
  dsimp only at parsed
  split at parsed
  · cases parsed
    exact .number _
  · cases parsed

mutual

theorem ordered_of_readValue : ∀ (fuel depth : Nat) (text rest : List Char)
    (document : Document), readValue fuel depth text = .ok (document, rest) →
      document.Ordered
  | 0, _, _, _, _, parsed => by cases parsed
  | fuel + 1, depth, text, rest, document, parsed => by
      rw [readValue.eq_def] at parsed
      dsimp only at parsed
      split at parsed
      · cases parsed
        exact .null
      · cases parsed
        exact .bool true
      · cases parsed
        exact .bool false
      · obtain ⟨_, _, parsed⟩ := Outcome.bind_eq_ok.mp parsed
        cases parsed
        exact .string _
      · exact ordered_of_readNumber parsed
      · split at parsed
        · cases parsed
        · split at parsed
          · cases parsed
            exact .array nofun
          · obtain ⟨_, items_parsed, parsed⟩ := Outcome.bind_eq_ok.mp parsed
            cases parsed
            exact .array (ordered_of_readItems fuel _ _ _ _ items_parsed)
      · split at parsed
        · cases parsed
        · split at parsed
          · cases parsed
            exact .object List.Pairwise.nil nofun
          · obtain ⟨_, members_parsed, parsed⟩ := Outcome.bind_eq_ok.mp parsed
            cases parsed
            exact .ofMembers (ordered_of_readMembers fuel _ _ _ _ members_parsed)
      · exact ordered_of_readNumber parsed

theorem ordered_of_readItems : ∀ (fuel depth : Nat) (text rest : List Char)
    (items : List Document), readItems fuel depth text = .ok (items, rest) →
      ∀ item, item ∈ items → item.Ordered
  | 0, _, _, _, _, parsed => by cases parsed
  | fuel + 1, depth, text, rest, items, parsed => by
      obtain ⟨⟨first, after⟩, first_parsed, parsed⟩ := Outcome.bind_eq_ok.mp parsed
      have first_ordered := ordered_of_readValue fuel depth text after first first_parsed
      dsimp only at parsed
      split at parsed
      · cases parsed
        intro item member
        rw [List.mem_singleton.mp member]
        exact first_ordered
      · obtain ⟨⟨others, _⟩, others_parsed, parsed⟩ := Outcome.bind_eq_ok.mp parsed
        cases parsed
        intro item member
        rcases List.mem_cons.mp member with rfl | later
        · exact first_ordered
        · exact ordered_of_readItems fuel depth _ _ others others_parsed item later
      · cases parsed

theorem ordered_of_readMembers : ∀ (fuel depth : Nat) (text rest : List Char)
    (members : List (String × Document)),
      readMembers fuel depth text = .ok (members, rest) →
        ∀ name value, (name, value) ∈ members → value.Ordered
  | 0, _, _, _, _, parsed => by cases parsed
  | fuel + 1, depth, text, rest, members, parsed => by
      rw [readMembers] at parsed
      split at parsed
      · obtain ⟨⟨characters, _⟩, _, parsed⟩ := Outcome.bind_eq_ok.mp parsed
        dsimp only at parsed
        split at parsed
        · obtain ⟨⟨first, after⟩, first_parsed, parsed⟩ := Outcome.bind_eq_ok.mp parsed
          have first_ordered := ordered_of_readValue fuel depth _ after first first_parsed
          dsimp only at parsed
          split at parsed
          · cases parsed
            intro name value member
            cases List.mem_singleton.mp member
            exact first_ordered
          · obtain ⟨⟨others, _⟩, others_parsed, parsed⟩ := Outcome.bind_eq_ok.mp parsed
            cases parsed
            intro name value member
            rcases List.mem_cons.mp member with same | later
            · cases same
              exact first_ordered
            · exact ordered_of_readMembers fuel depth _ _ others others_parsed name value later
          · cases parsed
        · cases parsed
      · cases parsed

end

/-- A document that was read from text is in order. -/
theorem ordered_of_read {text : String} {document : Document}
    (parsed : read text = .ok document) : document.Ordered := by
  obtain ⟨⟨value, rest⟩, value_parsed, parsed⟩ := Outcome.bind_eq_ok.mp parsed
  have value_ordered := ordered_of_readValue _ _ _ _ _ value_parsed
  dsimp only at parsed
  split at parsed
  · cases parsed
    exact value_ordered
  · cases parsed

end Document

end StatesLanguage
