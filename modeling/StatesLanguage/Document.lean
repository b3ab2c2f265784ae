import StatesLanguage.Members
import StatesLanguage.Document.Number

/-!
# Documents

A document is a JSON value.  An object lists its members by name; lists built
through `Members.insert` are sorted by code point, which is also the order of
their UTF-8 bytes.
-/

namespace StatesLanguage

/-- A JSON value. -/
inductive Document where
  | null
  | bool (value : Bool)
  | number (value : Number)
  | string (value : String)
  | array (items : List Document)
  | object (members : List (String × Document))
  deriving Inhabited

namespace Document

mutual

private def decideEq : (left right : Document) → Decidable (left = right)
  | .null, .null => isTrue rfl
  | .bool left, .bool right =>
      if same : left = right then isTrue (by rw [same]) else isFalse (by simp [same])
  | .number left, .number right =>
      if same : left = right then isTrue (by rw [same]) else isFalse (by simp [same])
  | .string left, .string right =>
      if same : left = right then isTrue (by rw [same]) else isFalse (by simp [same])
  | .array left, .array right =>
      match decideEqList left right with
      | isTrue same => isTrue (by rw [same])
      | isFalse differ => isFalse (by simp [differ])
  | .object left, .object right =>
      match decideEqMembers left right with
      | isTrue same => isTrue (by rw [same])
      | isFalse differ => isFalse (by simp [differ])
  | .null, .bool _ | .null, .number _ | .null, .string _ | .null, .array _
  | .null, .object _ => isFalse (by simp)
  | .bool _, .null | .bool _, .number _ | .bool _, .string _ | .bool _, .array _
  | .bool _, .object _ => isFalse (by simp)
  | .number _, .null | .number _, .bool _ | .number _, .string _
  | .number _, .array _ | .number _, .object _ => isFalse (by simp)
  | .string _, .null | .string _, .bool _ | .string _, .number _
  | .string _, .array _ | .string _, .object _ => isFalse (by simp)
  | .array _, .null | .array _, .bool _ | .array _, .number _ | .array _, .string _
  | .array _, .object _ => isFalse (by simp)
  | .object _, .null | .object _, .bool _ | .object _, .number _
  | .object _, .string _ | .object _, .array _ => isFalse (by simp)

private def decideEqList : (left right : List Document) → Decidable (left = right)
  | [], [] => isTrue rfl
  | [], _ :: _ => isFalse (by simp)
  | _ :: _, [] => isFalse (by simp)
  | left :: lefts, right :: rights =>
      match decideEq left right, decideEqList lefts rights with
      | isTrue same, isTrue sameRest => isTrue (by rw [same, sameRest])
      | isFalse differ, _ => isFalse (by simp [differ])
      | _, isFalse differ => isFalse (by simp [differ])

private def decideEqMembers :
    (left right : List (String × Document)) → Decidable (left = right)
  | [], [] => isTrue rfl
  | [], _ :: _ => isFalse (by simp)
  | _ :: _, [] => isFalse (by simp)
  | (leftName, left) :: lefts, (rightName, right) :: rights =>
      if sameName : leftName = rightName then
        match decideEq left right, decideEqMembers lefts rights with
        | isTrue same, isTrue sameRest =>
            isTrue (by rw [sameName, same, sameRest])
        | isFalse differ, _ => isFalse (by simp [differ])
        | _, isFalse differ => isFalse (by simp [differ])
      else isFalse (by simp [sameName])

end

instance : DecidableEq Document := decideEq

/-- The object whose members are set one after another. -/
def ofMembers (members : List (String × Document)) : Document :=
  .object (Members.ofList members)

def ofNat (value : Nat) : Document :=
  .number (.integer value)

def empty : Document :=
  .object []

/-- The member of that name, of an object that has it. -/
def member? (name : String) : Document → Option Document
  | .object members => Members.get? name members
  | _ => none

def string? : Document → Option String
  | .string value => some value
  | _ => none

def bool? : Document → Option Bool
  | .bool value => some value
  | _ => none

def array? : Document → Option (List Document)
  | .array items => some items
  | _ => none

def object? : Document → Option (List (String × Document))
  | .object members => some members
  | _ => none

/-- The value of a number, rounded to binary64. -/
def binary64? : Document → Option Binary64
  | .number value => some value.toBinary64
  | _ => none

end Document

end StatesLanguage
