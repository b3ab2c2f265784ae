import StatesLanguage.Document

/-!
# Records

A record is a document of known members.  It is written as an object, in which
unknown members do not count, or as an array of its members in the order of their
declaration, of which the last ones may be left out if they may be absent.

`RecordReader` combines the readers of the members.  The members that are there are
read in the order in which they are written and the first fault counts; only then is
a missing member a fault.
-/

namespace StatesLanguage

/-- Why a document does not have the shape of what it is read as. -/
inductive ShapeFault where
  | missingField (name : String)
  | unknownVariant (name : String) (expected : List String)
  | wrongShape
  deriving DecidableEq, Repr

def ShapeFault.accented (word : String) : String :=
  "\x60" ++ word ++ "\x60"

/-- What is wrong with the shape. -/
def ShapeFault.message : ShapeFault → String
  | .missingField name => "missing field " ++ accented name
  | .unknownVariant name expected =>
      "unknown variant " ++ accented name ++ ", expected one of " ++
        String.intercalate ", " (expected.map accented)
  | .wrongShape => "a value has the wrong shape"

/-- The members of a record as they are written. -/
structure Record where
  members : List (String × Document)
  byPosition : Bool
  /-- Whether an array has more items than the record has members. -/
  excess : Bool

namespace Record

/-- The record of declared members that a document writes. -/
def ofDocument (declared : List String) : Document → Except ShapeFault Record
  | .object members => .ok ⟨members, false, false⟩
  | .array items => .ok ⟨declared.zip items, true, declared.length < items.length⟩
  | _ => .error .wrongShape

/-- The fault of a record without a member that it needs. -/
def missing (record : Record) (name : String) : ShapeFault :=
  if record.byPosition then .wrongShape else .missingField name

end Record

/-- A reader of a document as some type. -/
abbrev Shape (α : Type) := Document → Except ShapeFault α

namespace Shape

def text : Shape String
  | .string value => .ok value
  | _ => .error .wrongShape

def bool : Shape Bool
  | .bool value => .ok value
  | _ => .error .wrongShape

def natBelow (limit : Nat) : Shape Nat
  | .number (.integer (.ofNat value)) =>
      if value < limit then .ok value else .error .wrongShape
  | _ => .error .wrongShape

def word64 : Shape Nat := natBelow Number.wordLimit

def word32 : Shape Nat := natBelow (twoTo 32)

/-- A number, rounded to binary64. -/
def real : Shape Binary64
  | .number value => .ok value.toBinary64
  | _ => .error .wrongShape

def document : Shape Document := .ok

/-- Items of one shape, one after another. -/
def readItems {α : Type} (item : Shape α) : List Document → Except ShapeFault (List α)
  | [] => .ok []
  | first :: rest => do
      let value ← item first
      let values ← readItems item rest
      return value :: values

def list {α : Type} (item : Shape α) : Shape (List α)
  | .array items => readItems item items
  | _ => .error .wrongShape

/-- A value that `null` stands for the absence of. -/
def nullable {α : Type} (shape : Shape α) : Shape (Option α)
  | .null => .ok none
  | value => (shape value).map some

/-- Why a document does not have a shape, if it does not. -/
def fault? {α : Type} (shape : Shape α) (value : Document) : Option ShapeFault :=
  match shape value with
  | .ok _ => none
  | .error fault => some fault

end Shape

/-- A reader of a record: the checks of its members, and how the record is put
together from them. -/
structure RecordReader (α : Type) where
  checks : List (String × (Document → Option ShapeFault))
  assemble : Record → Except ShapeFault α

namespace RecordReader

variable {α β : Type}

/-- A member that must be there. -/
def required (name : String) (shape : Shape α) : RecordReader α where
  checks := [(name, shape.fault?)]
  assemble record :=
    match Members.get? name record.members with
    | some value => shape value
    | none => .error (record.missing name)

/-- A member with a value for its absence. -/
def withDefault (name : String) (shape : Shape α) (absent : α) : RecordReader α where
  checks := [(name, shape.fault?)]
  assemble record :=
    match Members.get? name record.members with
    | some value => shape value
    | none => .ok absent

/-- A member that may be absent or `null`. -/
def optional (name : String) (shape : Shape α) : RecordReader (Option α) :=
  withDefault name shape.nullable none

/-- A record of no members. -/
def constant (value : α) : RecordReader α where
  checks := []
  assemble _ := .ok value

/-- Puts together what two readers read. -/
def apply (function : RecordReader (α → β)) (argument : RecordReader α) :
    RecordReader β where
  checks := function.checks ++ argument.checks
  assemble record := do
    let function ← function.assemble record
    let argument ← argument.assemble record
    return function argument

instance : Applicative RecordReader where
  pure := constant
  seq function argument := apply function (argument ())

/-- The first fault of the members that are there, in the order in which they are
written. -/
def firstFault? (reader : RecordReader α) (members : List (String × Document)) :
    Option ShapeFault :=
  members.findSome? fun member =>
    (Members.get? member.1 reader.checks).bind (· member.2)

/-- The record that a document writes. -/
def read (reader : RecordReader α) (document : Document) : Except ShapeFault α := do
  let record ← Record.ofDocument (Members.names reader.checks) document
  match reader.firstFault? record.members with
  | some fault => .error fault
  | none =>
      let value ← reader.assemble record
      if record.excess then .error .wrongShape else return value

end RecordReader

end StatesLanguage
