import StatesLanguage.Failure
import StatesLanguage.Machine

/-!
# Valid machines

A machine is valid if its run can always tell where to go: the states it names
exist, every state that goes on says where, and lists of errors and delays make
sense.  `Machine.validate` reports the first thing that is wrong, states in the order
of their names.
-/

namespace StatesLanguage

/-- The failure of a definition. -/
def refuse {α : Type} (detail : String) : Except Failure α :=
  .error (.invalidDefinition detail)

def quotedName (name : String) : String :=
  "'" ++ name ++ "'"

/-- Names of states that a machine defines, as a test. -/
abbrev Defined := String → Bool

/-- A state that is gone to must be defined. -/
def checkTarget (defined : Defined) (target : String) : Except Failure Unit :=
  if defined target then .ok () else .error (.unknownState target)

/-- A state other than a Choice state, Succeed and Fail goes on or ends, not both. -/
def Exit.validate (defined : Defined) (name : String) (exit : Exit) :
    Except Failure Unit :=
  match exit.next, exit.isEnd with
  | some target, false => checkTarget defined target
  | none, true => .ok ()
  | some _, true => refuse ("state " ++ quotedName name ++ " declares both Next and End")
  | none, false => refuse ("state " ++ quotedName name ++ " must declare Next or End")

/-- Whether a rule inside the rule names a next state. -/
def Rule.hasNestedNext (rule : Rule) : Bool :=
  (rule.walk 0).any fun (depth, inner) => 0 < depth && inner.next.isSome

/-- A rule at the top of a Choice state names the next state, and no rule inside it
does. -/
def Rule.validate (defined : Defined) (name : String) (rule : Rule) :
    Except Failure Unit :=
  match rule.next with
  | none =>
      refuse ("every rule of Choice state " ++ quotedName name ++ " must declare Next")
  | some target => do
      checkTarget defined target
      if rule.hasNestedNext then
        refuse ("nested rules of Choice state " ++ quotedName name ++
          " must not declare Next")

def validateRules (defined : Defined) (name : String) : List Rule → Except Failure Unit
  | [] => .ok ()
  | rule :: rest => do
      rule.validate defined name
      validateRules defined name rest

/-- A Choice state has rules, and its rules alone say where it goes. -/
def Choice.validate (defined : Defined) (name : String) (branching : Choice) :
    Except Failure Unit :=
  if branching.exit.next.isSome || branching.exit.isEnd then
    refuse ("Choice state " ++ quotedName name ++ " must not declare Next or End")
  else if branching.rules.isEmpty then
    refuse ("Choice state " ++ quotedName name ++ " must have at least one rule")
  else do
    validateRules defined name branching.rules
    match branching.default with
    | none => .ok ()
    | some target => checkTarget defined target

/-- How many of its four durations a Wait state declares. -/
def Wait.durationCount (delay : Wait) : Nat :=
  [delay.seconds.isSome, delay.secondsPath.isSome, delay.timestamp.isSome,
    delay.timestampPath.isSome].count true

/-- A Wait state declares one duration. -/
def Wait.validate (name : String) (delay : Wait) : Except Failure Unit :=
  if delay.durationCount = 1 then .ok ()
  else
    refuse ("Wait state " ++ quotedName name ++
      " must declare exactly one of Seconds, SecondsPath, Timestamp, TimestampPath")

/-- Lists of errors are not empty, and the name for all errors stands alone in the
last one. -/
def validateErrorLists (name field : String) (index : Nat) :
    List (List String) → Except Failure Unit
  | [] => .ok ()
  | errors :: rest =>
      if errors.isEmpty then
        refuse (field ++ " entry " ++ String.ofList (Number.digitText index) ++
          " of state " ++ quotedName name ++ " has an empty ErrorEquals")
      else if errors.contains ErrorName.all && (errors.length ≠ 1 || !rest.isEmpty) then
        refuse (ErrorName.all ++ " must appear alone in the last " ++ field ++
          " entry of state " ++ quotedName name)
      else validateErrorLists name field (index + 1) rest

/-- The delays of a Retry entry: no negative interval, no rate below one, and a
positive bound. -/
def Retrier.validate (name : String) (retrier : Retrier) : Except Failure Unit :=
  if retrier.intervalSeconds.any fun interval => !(Binary64.zero false).le interval then
    refuse ("Retry IntervalSeconds of state " ++ quotedName name ++ " must be >= 0")
  else if retrier.backoffRate.any fun rate => !(Binary64.ofNat 1).le rate then
    refuse ("Retry BackoffRate of state " ++ quotedName name ++ " must be >= 1.0")
  else if retrier.maxDelaySeconds.any fun bound => !(Binary64.zero false).lt bound then
    refuse ("Retry MaxDelaySeconds of state " ++ quotedName name ++ " must be > 0")
  else .ok ()

def validateRetriers (name : String) : List Retrier → Except Failure Unit
  | [] => .ok ()
  | retrier :: rest => do
      retrier.validate name
      validateRetriers name rest

/-- Catch entries go to states that are defined. -/
def validateCatchers (defined : Defined) : List Catcher → Except Failure Unit
  | [] => .ok ()
  | catcher :: rest => do
      checkTarget defined catcher.next
      validateCatchers defined rest

/-- The handling of errors: the lists of each kind before their other members. -/
def Recovery.validate (defined : Defined) (name : String) (recovery : Recovery) :
    Except Failure Unit := do
  validateErrorLists name "Retry" 0 (recovery.retriers.map (·.errorEquals))
  validateRetriers name recovery.retriers
  validateErrorLists name "Catch" 0 (recovery.catchers.map (·.errorEquals))
  validateCatchers defined recovery.catchers

mutual

/-- A state of a machine that defines some states. -/
def State.validate (defined : Defined) (name : String) : State → Except Failure Unit
  | .task _ work => do
      work.exit.validate defined name
      if work.resource.isEmpty then
        refuse ("Task state " ++ quotedName name ++ " has an empty Resource")
      else work.recovery.validate defined name
  | .pass _ given => given.exit.validate defined name
  | .choice _ branching => branching.validate defined name
  | .wait _ delay => do
      delay.exit.validate defined name
      delay.validate name
  | .succeed _ => .ok ()
  | .fail _ => .ok ()
  | .map _ items => do
      items.exit.validate defined name
      items.recovery.validate defined name
  | .parallel _ branches _ recovery exit => do
      exit.validate defined name
      validateBranches branches
      recovery.validate defined name

/-- A machine has a state, its first state is defined, and its states are valid. -/
def Machine.validate : Machine → Except Failure Unit
  | ⟨startAt, states, _, _, _⟩ =>
      if states.isEmpty then refuse "state machine must define at least one state"
      else if Members.contains startAt states then
        validateStates (fun name => Members.contains name states) states
      else .error (.unknownState startAt)

def validateBranches : List Machine → Except Failure Unit
  | [] => .ok ()
  | machine :: rest => do
      machine.validate
      validateBranches rest

def validateStates (defined : Defined) : List (String × State) → Except Failure Unit
  | [] => .ok ()
  | (name, state) :: rest => do
      state.validate defined name
      validateStates defined rest

end

end StatesLanguage
