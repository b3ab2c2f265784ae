import StatesLanguage.Document

/-!
# TOML tables

A text fills in one table piece by piece.  How a table came to be decides how it may
grow: a header defines a table once, keys with points grow only tables that such keys
made, and a value never grows.
-/

namespace StatesLanguage

namespace Toml

/-- How a table came to be: by its own header, on the way to another table, or on the
way to the value of a key with points. -/
inductive Origin where
  | header
  | passage
  | dotted
  deriving DecidableEq, Repr

/-- What a name stands for: a value, a table, or the tables that headers in double
brackets made. -/
inductive Entry where
  | value (document : Document)
  | table (origin : Origin) (entries : List (String × Entry))
  | tables (items : List (List (String × Entry)))

abbrev Entries := List (String × Entry)

/-- Whether a value with a key of so many more parts may be put into a table; the table
that takes the value itself must be one that such a key made. -/
def Origin.growsBy (remaining : Nat) : Origin → Bool
  | .header => false
  | .passage => 1 < remaining
  | .dotted => true

/-- Gives a value to a key.  The key must be new, and all tables on its way must be
open to keys with points. -/
def define? : List String → Document → Entries → Option Entries
  | [], _, _ => none
  | [name], document, entries =>
      if Members.contains name entries then none
      else some (Members.insert name (.value document) entries)
  | name :: next :: rest, document, entries =>
      match Members.get? name entries with
      | none =>
          (define? (next :: rest) document []).map fun inner =>
            Members.insert name (.table .dotted inner) entries
      | some (.table origin inner) =>
          if origin.growsBy (rest.length + 1) then
            (define? (next :: rest) document inner).map fun inner =>
              Members.replace name (.table origin inner) entries
          else none
      | some (.tables items) =>
          if rest.isEmpty then none
          else
            (define? (next :: rest) document (items.getLast?.getD [])).map fun inner =>
              Members.replace name (.tables (items.dropLast ++ [inner])) entries
      | some (.value _) => none

/-- Changes the table that a header names, making those on its way; of tables in double
brackets the last one is meant. -/
def change? (action : Entries → Option Entries) : List String → Entries → Option Entries
  | [], entries => action entries
  | name :: rest, entries =>
      match Members.get? name entries with
      | none =>
          (change? action rest []).map fun inner =>
            Members.insert name (.table .passage inner) entries
      | some (.table origin inner) =>
          (change? action rest inner).map fun inner =>
            Members.replace name (.table origin inner) entries
      | some (.tables items) =>
          (change? action rest (items.getLast?.getD [])).map fun inner =>
            Members.replace name (.tables (items.dropLast ++ [inner])) entries
      | some (.value _) => none

/-- Opens the table of a header, which must be new or only passed so far. -/
def openTable? (name : String) (entries : Entries) : Option Entries :=
  match Members.get? name entries with
  | none => some (Members.insert name (.table .header []) entries)
  | some (.table .passage inner) =>
      some (Members.replace name (.table .header inner) entries)
  | some _ => none

/-- Opens one more table of a header in double brackets. -/
def openItem? (name : String) (entries : Entries) : Option Entries :=
  match Members.get? name entries with
  | none => some (Members.insert name (.tables [[]]) entries)
  | some (.tables items) =>
      some (Members.replace name (.tables (items ++ [[]])) entries)
  | some _ => none

mutual

def Entry.toDocument : Entry → Document
  | .value document => document
  | .table _ entries => Document.ofMembers (entriesDocuments entries)
  | .tables items => .array (tableDocuments items)

def entriesDocuments : List (String × Entry) → List (String × Document)
  | [] => []
  | (name, entry) :: rest => (name, entry.toDocument) :: entriesDocuments rest

def tableDocuments : List (List (String × Entry)) → List Document
  | [] => []
  | entries :: rest =>
      Document.ofMembers (entriesDocuments entries) :: tableDocuments rest

end

end Toml

end StatesLanguage
