import Mathlib.Data.List.Forall2
import StatesLanguage.Template

/-!
# Two evaluations of one template

What a template does with data is compared across two inputs and two contexts.  The data
enters at the paths that are written in the template, and nowhere else: if these select
related values, and the functions that are called keep values related, then the results
are related too.  The relation is a parameter, so the argument is made once.
-/

namespace StatesLanguage

/-- Two outcomes that are both a failure or both a value, and related. -/
inductive Outcome.Agree {α : Type} (failures : Failure → Failure → Prop)
    (related : α → α → Prop) : Except Failure α → Except Failure α → Prop where
  | failed {first second : Failure} (alike : failures first second) :
      Agree failures related (.error first) (.error second)
  | succeeded {first second : α} (alike : related first second) :
      Agree failures related (.ok first) (.ok second)

namespace Outcome.Agree

variable {failures : Failure → Failure → Prop} {α β : Type} {related : α → α → Prop}

theorem bind {wider : β → β → Prop} {first second : Except Failure α}
    {next other : α → Except Failure β} (agree : Agree failures related first second)
    (later : ∀ value value', related value value' →
      Agree failures wider (next value) (other value')) :
    Agree failures wider (first >>= next) (second >>= other) := by
  cases agree with
  | failed alike => exact failed alike
  | succeeded alike => exact later _ _ alike

theorem ok_or_error {first second : Except Failure α}
    (agree : Agree failures related first second) :
    (∃ value other, first = .ok value ∧ second = .ok other ∧ related value other) ∨
      ∃ failure other, first = .error failure ∧ second = .error other ∧
        failures failure other := by
  cases agree with
  | failed alike => exact .inr ⟨_, _, rfl, rfl, alike⟩
  | succeeded alike => exact .inl ⟨_, _, rfl, rfl, alike⟩

theorem eq {first second : Except Failure α} (agree : Agree Eq Eq first second) :
    first = second := by
  cases agree with
  | failed alike => rw [alike]
  | succeeded alike => rw [alike]

theorem of_eq {first second : Except Failure α} (same : first = second) :
    Agree Eq Eq first second := by
  subst same
  cases first with
  | error failure => exact failed rfl
  | ok value => exact succeeded rfl

end Outcome.Agree

/-- Members with one name and related values. -/
def Members.Related {α : Type} (related : α → α → Prop) (member other : String × α) : Prop :=
  member.1 = other.1 ∧ related member.2 other.2

/-- Relations of failures and of documents that hold of equal ones and that arrays and
objects keep. -/
structure Document.Congruence (failures : Failure → Failure → Prop)
    (related : Document → Document → Prop) : Prop where
  failure : ∀ failure, failures failure failure
  document : ∀ document, related document document
  array : ∀ {items others : List Document}, List.Forall₂ related items others →
    related (.array items) (.array others)
  ofMembers : ∀ {members others : List (String × Document)},
    List.Forall₂ (Members.Related related) members others →
      related (.ofMembers members) (.ofMembers others)

theorem Document.congruence_eq : Document.Congruence Eq Eq where
  failure _ := rfl
  document _ := rfl
  array alike := by
    rw [List.forall₂_eq_eq_eq] at alike
    rw [alike]
  ofMembers alike := by
    have same := alike.imp fun _ _ member => Prod.ext member.1 member.2
    rw [List.forall₂_eq_eq_eq] at same
    rw [same]

/-- A function takes related arguments to related values. -/
def Intrinsic.Keeps (failures : Failure → Failure → Prop)
    (related : Document → Document → Prop) (function : Intrinsic) : Prop :=
  ∀ values others, List.Forall₂ related values others →
    Outcome.Agree failures related (function.apply values) (function.apply others)

theorem Intrinsic.keeps_eq (function : Intrinsic) : function.Keeps Eq Eq := by
  intro values others alike
  rw [List.forall₂_eq_eq_eq] at alike
  exact .of_eq (congrArg function.apply alike)

section

variable {failures : Failure → Failure → Prop} {related : Document → Document → Prop}
  {first second firstContext secondContext : Document}

namespace Call

/-- The paths among the arguments of a call. -/
def paths (call : Call) : List String :=
  match Arguments.split call.arguments with
  | .ok parts => (parts.map String.ofList).filter Path.isPath
  | .error _ => []

theorem evaluateArguments_agree (congruence : Document.Congruence failures related)
    {arguments : List (List Char)}
    (selected : ∀ argument ∈ arguments, Path.isPath (String.ofList argument) = true →
      Outcome.Agree failures related (first.resolve (String.ofList argument) firstContext)
        (second.resolve (String.ofList argument) secondContext)) :
    Outcome.Agree failures (List.Forall₂ related)
      (evaluateArguments first firstContext arguments)
      (evaluateArguments second secondContext arguments) := by
  induction arguments with
  | nil => exact .succeeded .nil
  | cons argument rest induction =>
      have head : Outcome.Agree failures related
          (evaluateArgument first firstContext argument)
          (evaluateArgument second secondContext argument) := by
        rw [evaluateArgument, evaluateArgument]
        by_cases path : Path.isPath (String.ofList argument) = true
        · simp only [path, if_true]
          exact selected argument List.mem_cons_self path
        · simp only [path, Bool.false_eq_true, if_false]
          split
          · exact .succeeded (congruence.document _)
          · split
            · exact .succeeded (congruence.document _)
            · exact .failed (congruence.failure _)
      have tail := induction fun other member =>
        selected other (List.mem_cons_of_mem _ member)
      apply head.bind
      intro value other alike
      apply tail.bind
      intro values others rest
      exact .succeeded (.cons alike rest)

/-- A call depends on the paths among its arguments and on what its function keeps. -/
theorem evaluate_agree (congruence : Document.Congruence failures related) {text : String}
    (selected : ∀ call, read? text = some call → ∀ expression ∈ call.paths,
      Outcome.Agree failures related (first.resolve expression firstContext)
        (second.resolve expression secondContext))
    (kept : ∀ call, read? text = some call → ∀ function,
      Intrinsic.ofName call.name = .ok function → function.Keeps failures related) :
    Outcome.Agree failures related (evaluate first text firstContext)
      (evaluate second text secondContext) := by
  rw [evaluate, evaluate]
  cases reading : read? text with
  | none => exact .failed (congruence.failure _)
  | some call =>
      dsimp only
      cases found : Intrinsic.ofName call.name with
      | error failure => exact .failed (congruence.failure _)
      | ok function =>
          cases divided : Arguments.split call.arguments with
          | error fault => exact .failed (congruence.failure _)
          | ok parts =>
              have each : ∀ argument ∈ parts, Path.isPath (String.ofList argument) = true →
                  Outcome.Agree failures related
                    (first.resolve (String.ofList argument) firstContext)
                    (second.resolve (String.ofList argument) secondContext) := by
                intro argument member path
                apply selected call reading
                rw [paths, divided]
                exact List.mem_filter.mpr ⟨List.mem_map_of_mem member, path⟩
              apply (evaluateArguments_agree congruence each).bind
              intro values others alike
              exact kept call reading function found values others alike

end Call

namespace Template

mutual

/-- The strings of a template. -/
def texts : Document → List String
  | .string text => [text]
  | .array items => itemTexts items
  | .object members => memberTexts members
  | .null | .bool _ | .number _ => []

def itemTexts : List Document → List String
  | [] => []
  | item :: rest => texts item ++ itemTexts rest

def memberTexts : List (String × Document) → List String
  | [] => []
  | (_, value) :: rest => texts value ++ memberTexts rest

end

/-- The paths that a string writes: itself, or the arguments of a call. -/
def textPaths (text : String) : List String :=
  if Path.isPath text then [text]
  else
    match Call.read? text with
    | some call => call.paths
    | none => []

/-- The paths that are written in a template. -/
def paths (template : Document) : List String :=
  (texts template).flatMap textPaths

/-- A string of a template stands for related values: the values of a path, or those of a
call. -/
structure TextAgrees (failures : Failure → Failure → Prop)
    (related : Document → Document → Prop)
    (first second firstContext secondContext : Document) (text : String) : Prop where
  path : Path.isPath text = true →
    Outcome.Agree failures related (first.resolve text firstContext)
      (second.resolve text secondContext)
  call : Path.isPath text ≠ true →
    Outcome.Agree failures related (Call.evaluate first text firstContext)
      (Call.evaluate second text secondContext)

theorem evaluateString_agree (congruence : Document.Congruence failures related)
    {text : String}
    (agrees : TextAgrees failures related first second firstContext secondContext text) :
    Outcome.Agree failures related (evaluateString text first firstContext)
      (evaluateString text second secondContext) := by
  rw [evaluateString, evaluateString]
  split
  · rename_i path
    exact agrees.path path
  · rename_i pathless
    split
    · exact agrees.call pathless
    · exact .succeeded (congruence.document _)

theorem evaluateDynamic_agree (congruence : Document.Congruence failures related)
    (name : String) {value : Document}
    (agrees : ∀ text ∈ texts value,
      TextAgrees failures related first second firstContext secondContext text) :
    Outcome.Agree failures related (evaluateDynamic name value first firstContext)
      (evaluateDynamic name value second secondContext) := by
  cases value with
  | string text =>
      have agree := agrees text List.mem_cons_self
      rw [evaluateDynamic, evaluateDynamic]
      split
      · rename_i path
        exact agree.path path
      · rename_i pathless
        split
        · exact agree.call pathless
        · exact .failed (congruence.failure _)
  | null | bool | number | array | object => exact .failed (congruence.failure _)

mutual

/-- The value of a template depends on its strings alone. -/
theorem evaluate_agree (congruence : Document.Congruence failures related)
    (template : Document) (agrees : ∀ text ∈ texts template,
      TextAgrees failures related first second firstContext secondContext text) :
    Outcome.Agree failures related (evaluate template first firstContext)
      (evaluate template second secondContext) := by
  cases template with
  | object members =>
      rw [texts] at agrees
      rw [evaluate, evaluate]
      apply (evaluateMembers_agree congruence members agrees).bind
      intro values others alike
      exact .succeeded (congruence.ofMembers alike)
  | array items =>
      rw [texts] at agrees
      rw [evaluate, evaluate]
      apply (evaluateItems_agree congruence items agrees).bind
      intro values others alike
      exact .succeeded (congruence.array alike)
  | string text =>
      rw [evaluate, evaluate]
      exact evaluateString_agree congruence (agrees text List.mem_cons_self)
  | null | bool | number =>
      rw [evaluate, evaluate]
      · exact .succeeded (congruence.document _)
      all_goals nofun

theorem evaluateItems_agree (congruence : Document.Congruence failures related)
    (items : List Document) (agrees : ∀ text ∈ itemTexts items,
      TextAgrees failures related first second firstContext secondContext text) :
    Outcome.Agree failures (List.Forall₂ related) (evaluateItems items first firstContext)
      (evaluateItems items second secondContext) := by
  cases items with
  | nil =>
      rw [evaluateItems, evaluateItems]
      exact .succeeded .nil
  | cons item rest =>
      rw [itemTexts, List.forall_mem_append] at agrees
      rw [evaluateItems, evaluateItems]
      apply (evaluate_agree congruence item agrees.1).bind
      intro value other alike
      apply (evaluateItems_agree congruence rest agrees.2).bind
      intro values others rest
      exact .succeeded (.cons alike rest)

theorem evaluateMembers_agree (congruence : Document.Congruence failures related)
    (members : List (String × Document)) (agrees : ∀ text ∈ memberTexts members,
      TextAgrees failures related first second firstContext secondContext text) :
    Outcome.Agree failures (List.Forall₂ (Members.Related related))
      (evaluateMembers members first firstContext)
      (evaluateMembers members second secondContext) := by
  cases members with
  | nil =>
      rw [evaluateMembers, evaluateMembers]
      exact .succeeded .nil
  | cons member rest =>
      obtain ⟨name, value⟩ := member
      rw [memberTexts, List.forall_mem_append] at agrees
      rw [evaluateMembers, evaluateMembers]
      have later : ∀ plain value other, related value other →
          Outcome.Agree failures (List.Forall₂ (Members.Related related))
            (evaluateMembers rest first firstContext >>= fun values =>
              .ok ((plain, value) :: values))
            (evaluateMembers rest second secondContext >>= fun values =>
              .ok ((plain, other) :: values)) := by
        intro plain value other alike
        apply (evaluateMembers_agree congruence rest agrees.2).bind
        intro values others members
        exact .succeeded (.cons ⟨rfl, alike⟩ members)
      cases dynamicName? name with
      | some plain =>
          apply (evaluateDynamic_agree congruence name agrees.1).bind
          exact later plain
      | none =>
          apply (evaluate_agree congruence value agrees.1).bind
          exact later name

end

/-- If the paths of a template select related values and its functions keep values
related, its results are related. -/
theorem evaluate_agree_of_paths (congruence : Document.Congruence failures related)
    {template : Document}
    (selected : ∀ expression ∈ paths template,
      Outcome.Agree failures related (first.resolve expression firstContext)
        (second.resolve expression secondContext))
    (kept : ∀ text ∈ texts template, ∀ call, Call.read? text = some call → ∀ function,
      Intrinsic.ofName call.name = .ok function → function.Keeps failures related) :
    Outcome.Agree failures related (evaluate template first firstContext)
      (evaluate template second secondContext) := by
  apply evaluate_agree congruence
  intro text member
  have written : ∀ expression ∈ textPaths text, expression ∈ paths template :=
    fun expression inside => List.mem_flatMap.mpr ⟨text, member, inside⟩
  constructor
  · intro path
    apply selected text
    apply written
    rw [textPaths, if_pos path]
    exact List.mem_cons_self
  · intro pathless
    refine Call.evaluate_agree congruence ?_ (kept text member)
    intro call reading expression inside
    apply selected expression
    apply written
    rw [textPaths, if_neg pathless, reading]
    exact inside

/-- Data reaches the value of a template through some paths only. -/
def ReadsOnly (expressions : List String) (template : Document) : Prop :=
  ∀ first second firstContext secondContext : Document,
    (∀ expression ∈ expressions,
      first.resolve expression firstContext = second.resolve expression secondContext) →
    evaluate template first firstContext = evaluate template second secondContext

theorem readsOnly_paths (template : Document) : ReadsOnly (paths template) template := by
  intro first second firstContext secondContext same
  refine (evaluate_agree_of_paths Document.congruence_eq ?_ ?_).eq
  · intro expression written
    exact .of_eq (same expression written)
  · intro text member call reading function found
    exact function.keeps_eq

end Template

end

end StatesLanguage
