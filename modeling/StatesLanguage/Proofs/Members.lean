import StatesLanguage.Members

/-!
# Laws of named members

What `Members.get?` finds after members were set one after another, what setting a name
again does, that two names are set in any order, where a member stands, which names there
are after setting and that they are distinct, what is left when some names are passed over,
and that setting commutes with a function of the values.
-/

namespace StatesLanguage

namespace Members

variable {α : Type}

theorem mem_of_get? {name : String} {value : α} {members : List (String × α)}
    (found : get? name members = some value) : (name, value) ∈ members := by
  induction members with
  | nil => cases found
  | cons member rest induction =>
      obtain ⟨other, old⟩ := member
      by_cases same : other = name
      · subst same
        simp only [get?, if_true, Option.some.injEq] at found
        subst found
        exact List.mem_cons_self
      · simp only [get?, same, if_false] at found
        exact List.mem_cons_of_mem _ (induction found)

theorem get?_eq_none_iff {name : String} {members : List (String × α)} :
    get? name members = none ↔ name ∉ names members := by
  induction members with
  | nil => simp [get?, names]
  | cons member rest induction =>
      obtain ⟨other, old⟩ := member
      by_cases same : other = name
      · simp [get?, names, same]
      · have reversed : name ≠ other := Ne.symm same
        simp only [get?, same, if_false, induction]
        simp [names, reversed]

/-- A walk that stops at the first member of a name depends on what is found under it. -/
theorem eq_elim_get? {β : Type} {name : String} {absent : β} {present : α → β}
    (walk : List (String × α) → β) (nil : walk [] = absent)
    (cons : ∀ other value rest, walk ((other, value) :: rest) =
      if other = name then present value else walk rest) (members : List (String × α)) :
    walk members = (get? name members).elim absent present := by
  induction members with
  | nil => exact nil
  | cons member rest induction =>
      obtain ⟨other, value⟩ := member
      rw [cons, get?]
      split
      · rfl
      · exact induction

theorem get?_insert (name other : String) (value : α) (members : List (String × α)) :
    get? other (insert name value members) =
      if name = other then some value else get? other members := by
  by_cases same : name = other
  · subst same
    simp
  · rw [if_neg same, get?_insert_of_ne (Ne.symm same)]

theorem get?_foldl_insert (name : String) (members start : List (String × α)) :
    get? name (members.foldl (fun result member => insert member.1 member.2 result) start) =
      (get? name (ofList members)).or (get? name start) := by
  induction members generalizing start with
  | nil => rfl
  | cons member rest induction =>
      rw [ofList, List.foldl_cons, List.foldl_cons, induction, induction, get?_insert,
        get?_insert, Option.or_assoc]
      by_cases same : member.1 = name
      · simp [same]
      · simp [same, get?]

@[simp] theorem get?_ofList_nil (name : String) :
    get? name (ofList ([] : List (String × α))) = none := by
  rw [ofList, List.foldl_nil, get?]

@[simp] theorem get?_ofList_cons (name other : String) (value : α)
    (members : List (String × α)) :
    get? name (ofList ((other, value) :: members)) =
      (get? name (ofList members)).or (if other = name then some value else none) := by
  have split := get?_foldl_insert name members (insert other value [])
  rwa [get?_insert] at split

@[simp] theorem get?_ofList_append (name : String) (left right : List (String × α)) :
    get? name (ofList (left ++ right)) =
      (get? name (ofList right)).or (get? name (ofList left)) := by
  have split := get?_foldl_insert name right (ofList left)
  rw [← split, ofList, ofList, List.foldl_append]

theorem get?_append (name : String) (before after : List (String × α)) :
    get? name (before ++ after) = (get? name before).or (get? name after) := by
  induction before with
  | nil => rfl
  | cons member rest induction =>
      obtain ⟨other, value⟩ := member
      by_cases same : other = name
      · simp [get?, same]
      · simp [get?, same, induction]

theorem insert_of_get? {name : String} {value : α} {members : List (String × α)}
    (found : get? name members = some value) : insert name value members = members := by
  have kept : replace name value members = members := by
    induction members with
    | nil => rfl
    | cons member rest induction =>
        obtain ⟨other, old⟩ := member
        by_cases same : other = name
        · simp only [get?, same, if_true, Option.some.injEq] at found
          simp [replace, same, found]
        · simp only [get?, same, if_false] at found
          simp [replace, same, induction found]
  simp [insert, found, kept]

theorem replace_replace (name : String) (first second : α) (members : List (String × α)) :
    replace name second (replace name first members) = replace name second members := by
  induction members with
  | nil => rfl
  | cons member rest induction =>
      obtain ⟨other, old⟩ := member
      by_cases same : other = name
      · simp [replace, same]
      · simp [replace, same, induction]

theorem replace_place {name : String} {members : List (String × α)}
    (absent : get? name members = none) (first second : α) :
    replace name second (place name first members) = place name second members := by
  induction members with
  | nil => simp [place, replace]
  | cons member rest induction =>
      obtain ⟨other, old⟩ := member
      have different : other ≠ name := by
        intro same
        simp [get?, same] at absent
      simp only [get?, different, if_false] at absent
      by_cases before : name < other
      · simp [place, replace, before]
      · simp [place, replace, before, different, induction absent]

/-- Of two values set under one name, the second one counts. -/
theorem insert_insert (name : String) (first second : α) (members : List (String × α)) :
    insert name second (insert name first members) = insert name second members := by
  have present : (get? name (insert name first members)).isSome := by simp
  rw [insert, if_pos present]
  unfold insert
  split
  · exact replace_replace name first second members
  · rename_i absent
    exact replace_place (by simpa using absent) first second

theorem replace_comm {first second : String} (different : first ≠ second) (value other : α)
    (members : List (String × α)) :
    replace first value (replace second other members) =
      replace second other (replace first value members) := by
  have reversed : second ≠ first := Ne.symm different
  induction members with
  | nil => rfl
  | cons member rest induction =>
      obtain ⟨name, old⟩ := member
      by_cases one : name = first
      · subst one
        simp [replace, different]
      · by_cases two : name = second
        · simp [replace, two, reversed]
        · simp [replace, one, two, induction]

theorem place_replace {first second : String} (different : first ≠ second) (value other : α)
    (members : List (String × α)) :
    place first value (replace second other members) =
      replace second other (place first value members) := by
  induction members with
  | nil => simp [replace, place, different]
  | cons member rest induction =>
      obtain ⟨name, old⟩ := member
      by_cases before : first < name
      · by_cases same : name = second
        · rw [replace, if_pos same, place, if_pos before, place, if_pos before, replace,
            if_neg different, replace, if_pos same]
        · rw [replace, if_neg same, place, if_pos before, place, if_pos before, replace,
            if_neg different, replace, if_neg same]
      · by_cases same : name = second
        · rw [replace, if_pos same, place, if_neg before, place, if_neg before, replace,
            if_pos same]
        · rw [replace, if_neg same, place, if_neg before, place, if_neg before, replace,
            if_neg same, induction]

private theorem place_place_of_lt {first second : String} (before : first < second)
    (value other : α) (members : List (String × α)) :
    place first value (place second other members) =
      place second other (place first value members) := by
  have behind : ¬ second < first := String.lt_asymm before
  induction members with
  | nil => simp only [place, if_pos before, if_neg behind]
  | cons member rest induction =>
      obtain ⟨name, old⟩ := member
      by_cases after : second < name
      · have earlier : first < name := String.lt_trans before after
        simp only [place, if_pos after, if_pos before, if_pos earlier, if_neg behind]
      · by_cases earlier : first < name
        · simp only [place, if_neg after, if_pos earlier, if_neg behind]
        · simp only [place, if_neg after, if_neg earlier, induction]

theorem place_comm {first second : String} (different : first ≠ second) (value other : α)
    (members : List (String × α)) :
    place first value (place second other members) =
      place second other (place first value members) := by
  by_cases before : first < second
  · exact place_place_of_lt before value other members
  · have behind : second < first :=
      Std.lt_of_le_of_ne (String.not_lt.mp before) (Ne.symm different)
    exact (place_place_of_lt behind other value members).symm

/-- Values are set under two names in any order. -/
theorem insert_comm {first second : String} (different : first ≠ second) (value other : α)
    (members : List (String × α)) :
    insert first value (insert second other members) =
      insert second other (insert first value members) := by
  have one := get?_insert_of_ne different other members
  have two := get?_insert_of_ne (Ne.symm different) value members
  unfold insert at one two ⊢
  rw [one, two]
  split
  · split
    · exact replace_comm different value other members
    · exact (place_replace (Ne.symm different) other value members).symm
  · split
    · exact place_replace different value other members
    · exact place_comm different value other members

/-- A new value takes the place of the one that was found. -/
theorem exists_split_of_get? {name : String} {value : α} {members : List (String × α)}
    (found : get? name members = some value) :
    ∃ before after, name ∉ names before ∧ members = before ++ (name, value) :: after ∧
      ∀ other, insert name other members = before ++ (name, other) :: after := by
  have split : ∃ before after, name ∉ names before ∧
      members = before ++ (name, value) :: after ∧
        ∀ other, replace name other members = before ++ (name, other) :: after := by
    induction members with
    | nil => cases found
    | cons member rest induction =>
        obtain ⟨first, old⟩ := member
        by_cases same : first = name
        · subst same
          simp only [get?, if_true, Option.some.injEq] at found
          subst found
          exact ⟨[], rest, List.not_mem_nil, rfl, fun other => if_pos rfl⟩
        · simp only [get?, same, if_false] at found
          obtain ⟨before, after, fresh, rfl, replaced⟩ := induction found
          refine ⟨(first, old) :: before, after, ?_, rfl, ?_⟩
          · exact List.not_mem_cons_of_ne_of_not_mem (Ne.symm same) fresh
          · intro other
            rw [replace, if_neg same, replaced, List.cons_append]
  obtain ⟨before, after, fresh, rfl, replaced⟩ := split
  refine ⟨before, after, fresh, rfl, fun other => ?_⟩
  rw [insert, found, Option.isSome_some, if_pos rfl, replaced]

/-- Giving one member a new value changes at most what is found as that member. -/
theorem get?_replaced {key name : String} {before after : List (String × α)}
    {child found : α} (there : get? name (before ++ (key, child) :: after) = some found)
    (other : α) :
    get? name (before ++ (key, other) :: after) = some found ∨
      found = child ∧ get? name (before ++ (key, other) :: after) = some other := by
  rw [get?_append, get?] at there ⊢
  cases earlier : get? name before with
  | some first =>
      rw [earlier] at there
      exact .inl there
  | none =>
      rw [earlier, Option.none_or] at there
      by_cases same : key = name
      · rw [if_pos same] at there ⊢
        cases there
        exact .inr ⟨rfl, rfl⟩
      · rw [if_neg same] at there ⊢
        exact .inl there

/-- A new member stands before the first greater name. -/
theorem exists_split_of_absent {name : String} {members : List (String × α)}
    (absent : get? name members = none) (value : α) :
    ∃ before after, (∀ member ∈ before, ¬ name < member.1) ∧
      (∀ member ∈ after.head?, name < member.1) ∧ members = before ++ after ∧
        insert name value members = before ++ (name, value) :: after := by
  rw [insert, absent, Option.isSome_none, if_neg Bool.false_ne_true]
  clear absent
  induction members with
  | nil => exact ⟨[], [], List.forall_mem_nil _, by simp, rfl, rfl⟩
  | cons member rest induction =>
      obtain ⟨other, old⟩ := member
      by_cases earlier : name < other
      · exact ⟨[], (other, old) :: rest, List.forall_mem_nil _, by simpa using earlier, rfl,
          if_pos earlier⟩
      · obtain ⟨before, after, behind, ahead, rfl, placed⟩ := induction
        refine ⟨(other, old) :: before, after, ?_, ahead, rfl, ?_⟩
        · exact List.forall_mem_cons.mpr ⟨earlier, behind⟩
        · rw [place, if_neg earlier, placed, List.cons_append]

theorem names_replace (name : String) (value : α) (members : List (String × α)) :
    names (replace name value members) = names members := by
  induction members with
  | nil => rfl
  | cons member rest induction =>
      obtain ⟨other, old⟩ := member
      by_cases same : other = name
      · simp [replace, names, same]
      · simp only [names] at induction
        simp [replace, names, same, induction]

theorem mem_names_place {name other : String} {value : α}
    {members : List (String × α)} :
    other ∈ names (place name value members) ↔ other = name ∨ other ∈ names members := by
  induction members with
  | nil => simp [place, names]
  | cons member rest induction =>
      obtain ⟨first, old⟩ := member
      by_cases before : name < first
      · simp [place, names, before]
      · simp only [names] at induction
        simp only [place, names, before, if_false, List.map_cons, List.mem_cons, induction]
        exact or_left_comm

theorem nodup_names_place {name : String} {value : α} {members : List (String × α)}
    (absent : name ∉ names members) (distinct : (names members).Nodup) :
    (names (place name value members)).Nodup := by
  induction members with
  | nil => simp [place, names]
  | cons member rest induction =>
      obtain ⟨first, old⟩ := member
      by_cases before : name < first
      · have placed : names (place name value ((first, old) :: rest)) =
            name :: names ((first, old) :: rest) := by
          simp [place, names, before]
        rw [placed]
        exact List.nodup_cons.mpr ⟨absent, distinct⟩
      · have placed : names (place name value ((first, old) :: rest)) =
            first :: names (place name value rest) := by
          simp [place, names, before]
        obtain ⟨fresh, distinct_rest⟩ := List.nodup_cons.mp distinct
        have differ : first ≠ name := fun same => absent (same ▸ List.mem_cons_self)
        have absent_rest : name ∉ names rest :=
          fun member => absent (List.mem_cons_of_mem _ member)
        rw [placed]
        refine List.nodup_cons.mpr ⟨?_, induction absent_rest distinct_rest⟩
        intro member
        rcases mem_names_place.mp member with same | earlier
        · exact differ same
        · exact fresh earlier

theorem nodup_names_insert (name : String) (value : α) {members : List (String × α)}
    (distinct : (names members).Nodup) : (names (insert name value members)).Nodup := by
  unfold insert
  split
  · rw [names_replace]
    exact distinct
  · rename_i absent
    refine nodup_names_place ?_ distinct
    exact get?_eq_none_iff.mp (by simpa using absent)

theorem nodup_names_ofList (members : List (String × α)) :
    (names (ofList members)).Nodup := by
  have folded : ∀ (start : List (String × α)), (names start).Nodup →
      (names (members.foldl (fun result member => insert member.1 member.2 result)
        start)).Nodup := by
    induction members with
    | nil => exact fun start distinct => distinct
    | cons member rest induction =>
        intro start distinct
        exact induction _ (nodup_names_insert member.1 member.2 distinct)
  exact folded [] List.nodup_nil

theorem mem_names_ofList {name : String} {members : List (String × α)} :
    name ∈ names (ofList members) ↔ name ∈ names members := by
  rw [← Decidable.not_iff_not, ← get?_eq_none_iff, ← get?_eq_none_iff]
  induction members with
  | nil => rfl
  | cons member rest induction =>
      obtain ⟨other, value⟩ := member
      rw [get?_ofList_cons, get?, Option.or_eq_none_iff, induction]
      by_cases same : other = name
      · simp [same]
      · simp [same]

/-- Of the members that were set under one name, the last one counts. -/
theorem exists_last_of_get?_ofList {name : String} {value : α} {members : List (String × α)}
    (found : get? name (ofList members) = some value) :
    ∃ before after, members = before ++ (name, value) :: after ∧ name ∉ names after := by
  induction members with
  | nil => cases found
  | cons member rest induction =>
      obtain ⟨other, first⟩ := member
      rw [get?_ofList_cons] at found
      rcases Option.or_eq_some_iff.mp found with later | ⟨absent, here⟩
      · obtain ⟨before, after, rfl, fresh⟩ := induction later
        exact ⟨(other, first) :: before, after, rfl, fresh⟩
      · split at here
        · rename_i same
          cases here
          rw [get?_eq_none_iff, mem_names_ofList] at absent
          exact ⟨[], rest, by rw [same, List.nil_append], absent⟩
        · cases here

theorem get?_of_mem {name : String} {value : α} {members : List (String × α)}
    (distinct : (names members).Nodup) (member : (name, value) ∈ members) :
    get? name members = some value := by
  induction members with
  | nil => cases member
  | cons first rest induction =>
      obtain ⟨other, old⟩ := first
      have fresh : other ∉ names rest := (List.nodup_cons.mp distinct).1
      rcases List.mem_cons.mp member with same | later
      · cases same
        simp [get?]
      · have differ : other ≠ name := by
          intro same
          rw [same] at fresh
          exact fresh (List.mem_map_of_mem later)
        simp [get?, differ, induction (List.nodup_cons.mp distinct).2 later]

theorem get?_ofList_of_nodup {members : List (String × α)} (distinct : (names members).Nodup)
    (name : String) : get? name (ofList members) = get? name members := by
  induction members with
  | nil => rfl
  | cons member rest induction =>
      obtain ⟨other, value⟩ := member
      obtain ⟨absent, distinct⟩ := List.nodup_cons.mp distinct
      rw [get?_ofList_cons, induction distinct, get?]
      by_cases same : other = name
      · subst same
        rw [get?_eq_none_iff.mpr absent, Option.none_or]
      · rw [if_neg same, if_neg same, Option.or_none]

theorem get?_filter_of_kept (keep : String → Bool) {name : String}
    (kept : keep name = true) (members : List (String × α)) :
    get? name (members.filter fun member => keep member.1) = get? name members := by
  induction members with
  | nil => rfl
  | cons member rest induction =>
      obtain ⟨other, value⟩ := member
      by_cases same : other = name
      · simp [get?, same, kept]
      · by_cases passed : keep other = true
        · simp [get?, same, passed, induction]
        · simp [get?, same, passed, induction]

theorem filter_replace_of_passed (keep : String → Bool) {name : String}
    (passed : keep name = false) (value : α) (members : List (String × α)) :
    (replace name value members).filter (fun member => keep member.1) =
      members.filter fun member => keep member.1 := by
  induction members with
  | nil => rfl
  | cons member rest induction =>
      obtain ⟨other, old⟩ := member
      by_cases same : other = name
      · simp [replace, same, passed]
      · simp [replace, same, List.filter_cons, induction]

theorem filter_place_of_passed (keep : String → Bool) {name : String}
    (passed : keep name = false) (value : α) (members : List (String × α)) :
    (place name value members).filter (fun member => keep member.1) =
      members.filter fun member => keep member.1 := by
  induction members with
  | nil => simp [place, passed]
  | cons member rest induction =>
      obtain ⟨other, old⟩ := member
      by_cases before : name < other
      · simp [place, before, passed]
      · simp [place, before, List.filter_cons, induction]

theorem filter_place_of_kept (keep : String → Bool) {name : String}
    (kept : keep name = true) (value : α) {members : List (String × α)}
    (others : members.filter (fun member => keep member.1) = []) :
    (place name value members).filter (fun member => keep member.1) = [(name, value)] := by
  induction members with
  | nil => simp [place, kept]
  | cons member rest induction =>
      obtain ⟨other, old⟩ := member
      by_cases before : name < other
      · rw [place, if_pos before, List.filter_cons, if_pos kept, others]
      · have passed : ¬ keep other = true :=
          List.filter_eq_nil_iff.mp others (other, old) List.mem_cons_self
        rw [List.filter_cons, if_neg passed] at others
        rw [place, if_neg before, List.filter_cons, if_neg passed, induction others]

/-- Setting a name that is passed over leaves what is kept. -/
theorem filter_insert_of_passed (keep : String → Bool) {name : String}
    (passed : keep name = false) (value : α) (members : List (String × α)) :
    (insert name value members).filter (fun member => keep member.1) =
      members.filter fun member => keep member.1 := by
  unfold insert
  split
  · exact filter_replace_of_passed keep passed value members
  · exact filter_place_of_passed keep passed value members

/-- Among names that are passed over, one that is kept stands alone. -/
theorem filter_insert_of_kept (keep : String → Bool) {name : String}
    (kept : keep name = true) (value : α) {members : List (String × α)}
    (others : members.filter (fun member => keep member.1) = []) :
    (insert name value members).filter (fun member => keep member.1) = [(name, value)] := by
  have absent : get? name members = none := by
    refine get?_eq_none_iff.mpr ?_
    intro present
    obtain ⟨member, there, same⟩ := List.mem_map.mp present
    have refused := List.filter_eq_nil_iff.mp others member there
    rw [same] at refused
    exact refused kept
  rw [insert, absent, Option.isSome_none, if_neg Bool.false_ne_true]
  exact filter_place_of_kept keep kept value others

section

variable {β : Type} (function : α → β)

theorem get?_map (name : String) (members : List (String × α)) :
    get? name (members.map (Prod.map id function)) = (get? name members).map function := by
  induction members with
  | nil => rfl
  | cons member rest induction =>
      obtain ⟨other, old⟩ := member
      simp only [List.map_cons, Prod.map, id, get?]
      split
      · rfl
      · exact induction

private theorem replace_map (name : String) (value : α) (members : List (String × α)) :
    replace name (function value) (members.map (Prod.map id function)) =
      (replace name value members).map (Prod.map id function) := by
  induction members with
  | nil => rfl
  | cons member rest induction =>
      obtain ⟨other, old⟩ := member
      simp only [List.map_cons, Prod.map, id, replace]
      split
      · rfl
      · rw [induction]
        rfl

private theorem place_map (name : String) (value : α) (members : List (String × α)) :
    place name (function value) (members.map (Prod.map id function)) =
      (place name value members).map (Prod.map id function) := by
  induction members with
  | nil => rfl
  | cons member rest induction =>
      obtain ⟨other, old⟩ := member
      simp only [List.map_cons, Prod.map, id, place]
      split
      · rfl
      · rw [induction]
        rfl

/-- Only names decide where a member is set. -/
theorem insert_map (name : String) (value : α) (members : List (String × α)) :
    insert name (function value) (members.map (Prod.map id function)) =
      (insert name value members).map (Prod.map id function) := by
  rw [insert, insert, get?_map, Option.isSome_map]
  split
  · exact replace_map function name value members
  · exact place_map function name value members

theorem ofList_map (members : List (String × α)) :
    ofList (members.map (Prod.map id function)) =
      (ofList members).map (Prod.map id function) := by
  rw [ofList, ofList, List.foldl_map]
  refine @List.foldl_hom _ _ _ (List.map (Prod.map id function)) _ _ members [] ?_
  intro result member
  exact insert_map function member.1 member.2 result

end

end Members

end StatesLanguage
