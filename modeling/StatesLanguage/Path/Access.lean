import StatesLanguage.Path.Notation

/-!
# Following paths

`Path.follow` takes the steps of a path through a document.  A name must be there,
a position must be in range and not negative, and only arrays have items and
slices; the bounds of a slice are clamped to the array, so a slice never fails.
-/

namespace StatesLanguage

namespace Path

/-- The bounds of a slice of `length` items, clamped so that the first is at most
the second and both are at most `length`. -/
def sliceBounds (length : Nat) (start stop : Option Int) : Nat × Nat :=
  let first := max 0 (min (start.getD 0) length)
  let last := min (max (stop.getD length) first) length
  (first.toNat, last.toNat)

/-- The items from the first bound up to, but without, the second. -/
def sliceItems {α : Type} (items : List α) (start stop : Option Int) : List α :=
  let (first, last) := sliceBounds items.length start stop
  (items.drop first).take (last - first)

/-- The item at a position that is not negative. -/
def itemAt? {α : Type} (items : List α) (position : Int) : Option α :=
  if position < 0 then none else items[position.toNat]?

/-- What a single step selects. -/
def Step.select (step : Step) (document : Document) : Except Fault Document :=
  match step with
  | .key name =>
      match document.member? name with
      | some value => .ok value
      | none => .error (.noMember name)
  | .index position =>
      match document with
      | .array items =>
          match itemAt? items position with
          | some item => .ok item
          | none => .error (.indexOutOfRange position)
      | _ => .error .indexIntoOther
  | .slice start stop =>
      match document with
      | .array items => .ok (.array (sliceItems items start stop))
      | _ => .error .sliceOfOther

/-- What the steps select, one after another. -/
def follow : List Step → Document → Except Fault Document
  | [], document => .ok document
  | step :: rest, document => do
      let next ← step.select document
      follow rest next

/-- The document that a root denotes. -/
def Root.denote (root : Root) (document context : Document) : Document :=
  match root with
  | .document => document
  | .context => context

/-- What a path selects. -/
def resolve (path : Path) (document context : Document) : Except Fault Document :=
  follow path.steps (path.root.denote document context)

/-- The steps of a joined path are taken in turn. -/
theorem follow_append (first second : List Step) (document : Document) :
    follow (first ++ second) document = (follow first document).bind (follow second) := by
  induction first generalizing document with
  | nil => rfl
  | cons step rest induction =>
      simp only [List.cons_append, follow]
      cases step.select document with
      | error fault => rfl
      | ok next => exact induction next

end Path

/-- What a path expression selects from a document, or from the context. -/
def Document.resolve (document : Document) (expression : String)
    (context : Document) : Except Failure Document :=
  let result := do
    let path ← Path.read expression
    path.resolve document context
  result.mapError (·.toFailure expression)

end StatesLanguage
