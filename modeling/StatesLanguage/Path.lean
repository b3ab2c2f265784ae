import StatesLanguage.Failure

/-!
# Paths

A path starts at the document of a state or at the execution context and takes
steps: a member by name, an item by position, or a slice of an array.
-/

namespace StatesLanguage

namespace Path

/-- Where a path starts. -/
inductive Root where
  | document
  | context
  deriving DecidableEq, Repr

/-- One step of a path. -/
inductive Step where
  | key (name : String)
  | index (position : Int)
  | slice (start stop : Option Int)
  deriving DecidableEq, Repr

/-- Why a path cannot be read, followed or assigned to. -/
inductive Fault where
  | noRoot
  | noSeparator
  | emptyPiece
  | strayBracket
  | unclosedBracket
  | malformedBracket
  | textAfterBracket
  | noMember (name : String)
  | indexIntoOther
  | indexOutOfRange (position : Int)
  | sliceOfOther
  | readOnlyContext
  | assignToSlice
  | assignIntoScalar
  | throughSlice
  | throughScalar
  deriving DecidableEq, Repr

/-- What is wrong, in a few words. -/
def Fault.reason : Fault → String
  | .noRoot => "must start with '$' or '$$'"
  | .noSeparator => "expected '.' or '[' after the root"
  | .emptyPiece => "empty segment"
  | .strayBracket => "unbalanced ']'"
  | .unclosedBracket => "unclosed '['"
  | .malformedBracket => "bracket must hold an index or a slice"
  | .textAfterBracket => "unexpected text after ']'"
  | .noMember name => "no field '" ++ name ++ "'"
  | .indexIntoOther => "index applied to a non-array"
  | .indexOutOfRange position =>
      "index " ++ String.ofList (Number.integerText position) ++ " out of range"
  | .sliceOfOther => "slice applied to a non-array"
  | .readOnlyContext => "the execution context is read-only"
  | .assignToSlice => "cannot assign to a slice"
  | .assignIntoScalar => "cannot assign into a scalar"
  | .throughSlice => "cannot assign through a slice"
  | .throughScalar => "cannot traverse a scalar"

/-- The failure of a path expression. -/
def Fault.toFailure (fault : Fault) (expression : String) : Failure :=
  .invalidPath (expression ++ " (" ++ fault.reason ++ ")")

end Path

/-- A root and the steps from it. -/
structure Path where
  root : Path.Root
  steps : List Path.Step
  deriving DecidableEq, Repr

end StatesLanguage
