import StatesLanguage.Path.Assignment

/-!
# Data flow through a state

A path attribute selects what a state reads, what it passes on, and where its
result goes.  An attribute that is absent keeps everything; one that is `null`
keeps nothing.
-/

namespace StatesLanguage

/-- A path attribute of a state: not written, written as `null`, or a path. -/
inductive PathAttribute where
  | absent
  | null
  | path (expression : String)
  deriving DecidableEq, Repr

namespace PathAttribute

/-- What the attribute selects: the whole document, the empty object, or what its
path selects. -/
def select (selector : PathAttribute) (document context : Document) :
    Except Failure Document :=
  match selector with
  | .absent => .ok document
  | .null => .ok .empty
  | .path expression => document.resolve expression context

/-- Where a result goes: in place of the input, nowhere, or into a copy of the
input at a path. -/
def splice (selector : PathAttribute) (input result : Document) :
    Except Failure Document :=
  match selector with
  | .absent => .ok result
  | .null => .ok input
  | .path expression =>
      match input.assign expression result with
      | (output, .ok ()) => .ok output
      | (_, .error failure) => .error failure

end PathAttribute

end StatesLanguage
