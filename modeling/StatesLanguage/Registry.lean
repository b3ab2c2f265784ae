import StatesLanguage.Failure
import StatesLanguage.Text.Quoted

/-!
# Resolvers

Resolvers do the work of tasks and are found by name.  They may remember what they
were asked, so an answer comes with the memory after it.  A `Registry` holds the
resolvers that stand in for real work: one that always answers the same, and one that
follows a script.
-/

namespace StatesLanguage

/-- Resolvers found by name, with a memory of some type. -/
structure Resolvers (Memory : Type) where
  knows : String → Bool
  invoke : String → Document → Memory → Except TaskError Document × Memory

/-- One line of a script: an answer, an error, or the input as it is. -/
inductive ScriptLine where
  | answer (value : Document)
  | error (taskError : TaskError)
  | echo
  deriving DecidableEq

/-- A resolver that stands in for real work.  A script is followed line by line and
its last line repeats; an empty one echoes. -/
inductive StandIn where
  | constant (value : Document)
  | script (lines : List ScriptLine)
  deriving DecidableEq

/-- What a line of a script makes of an input. -/
def ScriptLine.run (line : ScriptLine) (input : Document) : Except TaskError Document :=
  match line with
  | .answer value => .ok value
  | .error taskError => .error taskError
  | .echo => .ok input

/-- What a resolver makes of an input, and the resolver after it. -/
def StandIn.run (resolver : StandIn) (input : Document) :
    Except TaskError Document × StandIn :=
  match resolver with
  | .constant value => (.ok value, .constant value)
  | .script [] => (.ok input, .script [])
  | .script [line] => (line.run input, .script [line])
  | .script (line :: rest) => (line.run input, .script rest)

/-- Resolvers that stand in for real work, by name. -/
structure Registry where
  resolvers : List (String × StandIn)
  deriving DecidableEq

namespace Registry

def empty : Registry := ⟨[]⟩

/-- Registers a resolver, in place of one of the same name. -/
def register (registry : Registry) (name : String) (resolver : StandIn) : Registry :=
  ⟨Members.insert name resolver registry.resolvers⟩

/-- Whether a resolver of that name is registered. -/
def contains (registry : Registry) (name : String) : Bool :=
  Members.contains name registry.resolvers

def size (registry : Registry) : Nat :=
  registry.resolvers.length

def names (registry : Registry) : List String :=
  Members.names registry.resolvers

/-- Asks the resolver of that name, if there is one. -/
def invoke? (registry : Registry) (name : String) (input : Document) :
    Option (Except TaskError Document × Registry) :=
  (Members.get? name registry.resolvers).map fun resolver =>
    let (answer, after) := resolver.run input
    (answer, registry.register name after)

/-- The resolvers of a registry; what they remember is the registry itself. -/
def toResolvers (registry : Registry) : Resolvers Registry where
  knows := registry.contains
  invoke name input memory :=
    match memory.invoke? name input with
    | some answer => answer
    | none => (.ok input, memory)

end Registry

end StatesLanguage
