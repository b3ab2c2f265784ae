import StatesLanguage.Path.Access

/-!
# Assigning at paths

An assignment walks the steps of a path and leaves a document whether or not it
succeeds.  A name that is missing on the way becomes an empty object; the last name
may be new, but an item must exist.  Neither the context nor a slice can be
assigned to.
-/

namespace StatesLanguage

namespace Path

/-- The document that an assignment leaves, and why it failed if it did. -/
structure Assignment where
  document : Document
  fault : Option Fault
  deriving DecidableEq

/-- Assigns at the end of the steps. -/
def assign (value : Document) : List Step → Document → Assignment
  | [], _ => ⟨value, none⟩
  | step :: rest, document =>
      match step, document with
      | .key name, .object members =>
          let child := (Members.get? name members).getD .empty
          let below := assign value rest child
          ⟨.object (Members.insert name below.document members), below.fault⟩
      | .index position, .array items =>
          match itemAt? items position with
          | none => ⟨document, some (.indexOutOfRange position)⟩
          | some child =>
              let below := assign value rest child
              ⟨.array (items.set position.toNat below.document), below.fault⟩
      | .slice _ _, _ =>
          ⟨document, some (if rest.isEmpty then .assignToSlice else .throughSlice)⟩
      | _, _ =>
          ⟨document, some (if rest.isEmpty then .assignIntoScalar else .throughScalar)⟩

end Path

/-- Assigns a value at a path expression. -/
def Document.assign (document : Document) (expression : String)
    (value : Document) : Document × Except Failure Unit :=
  match Path.read expression with
  | .error fault => (document, .error (fault.toFailure expression))
  | .ok ⟨.context, _⟩ =>
      (document, .error (Path.Fault.readOnlyContext.toFailure expression))
  | .ok ⟨.document, steps⟩ =>
      match Path.assign value steps document with
      | ⟨result, none⟩ => (result, .ok ())
      | ⟨result, some fault⟩ => (result, .error (fault.toFailure expression))

end StatesLanguage
