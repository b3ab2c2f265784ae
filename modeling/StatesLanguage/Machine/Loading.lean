import StatesLanguage.Machine.Reader
import StatesLanguage.Machine.Validity

/-!
# Loading machines

A machine is loaded from a document in three steps: the choice rules that stand in
its objects are read first, so that a fault in a rule is reported as such, then the
whole machine is read, then it is validated.
-/

namespace StatesLanguage

mutual

/-- Reads the rules of the Choice states of a machine, and of its branches. -/
def checkMachineRules : Document → Except Failure Unit
  | .object members => checkStatesMember members
  | _ => .ok ()

/-- Reads the rules of the states under the first `States`. -/
def checkStatesMember : List (String × Document) → Except Failure Unit
  | [] => .ok ()
  | (name, value) :: rest =>
      if name = "States" then checkStates value else checkStatesMember rest

/-- Reads the rules of the states of an object. -/
def checkStates : Document → Except Failure Unit
  | .object members => checkNamedStates members
  | _ => .ok ()

/-- Reads the rules of states, one after another. -/
def checkNamedStates : List (String × Document) → Except Failure Unit
  | [] => .ok ()
  | (_, state) :: rest => do
      checkStateRules state
      checkNamedStates rest

/-- Reads the rules of a state: its own if it is a Choice state, those of its branches
if it is a Parallel state. -/
def checkStateRules : Document → Except Failure Unit
  | .object members =>
      match (Members.get? "Type" members).bind Document.string? with
      | some "Choice" =>
          match (Members.get? "Choices" members).bind Document.array? with
          | some rules => (Rule.readAll rules).map fun _ => ()
          | none => .ok ()
      | some "Parallel" => checkBranchesMember members
      | _ => .ok ()
  | _ => .ok ()

/-- Reads the rules of the machines under the first `Branches`. -/
def checkBranchesMember : List (String × Document) → Except Failure Unit
  | [] => .ok ()
  | (name, value) :: rest =>
      if name = "Branches" then checkBranches value else checkBranchesMember rest

/-- Reads the rules of the machines of an array. -/
def checkBranches : Document → Except Failure Unit
  | .array machines => checkMachines machines
  | _ => .ok ()

/-- Reads the rules of machines, one after another. -/
def checkMachines : List Document → Except Failure Unit
  | [] => .ok ()
  | machine :: rest => do
      checkMachineRules machine
      checkMachines rest

end

namespace Machine

/-- The valid machine that a document writes. -/
def ofDocument (document : Document) : Except Failure Machine := do
  checkMachineRules document
  let machine ← read document
  machine.validate
  return machine

def ofJson (text : String) : Except Failure Machine :=
  match Document.read text with
  | .ok document => ofDocument document
  | .error malformed => .error (.unreadable (malformed.message text))

end Machine

end StatesLanguage
