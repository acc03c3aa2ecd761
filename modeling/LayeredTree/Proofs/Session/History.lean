import LayeredTree.Proofs.Session.Blind
import LayeredTree.Proofs.Settings.Overlay
import Mathlib.Data.List.DropRight

/-!
# The history of a session

A process changes its environment, asks for the default settings, configures or resets them, and
folds and compares trees, in any order. What its history says about the default settings is read off
here, without a look at what the session keeps: since the last reset, the base is what the
environment gave when the default was first asked for with success, and every configuration that
succeeded is a round that was laid over it.
-/

namespace LayeredTree.Session

/-- What a process does with its settings and its trees. -/
inductive Operation where
  /-- Set or remove an environment variable. -/
  | setVariable (name : String) (value? : Option String)
  /-- Ask for the default settings, twice. -/
  | getSettings
  /-- Replace fields of the default settings. -/
  | configure (overrides : Settings.Keywords)
  /-- Forget the default settings. -/
  | resetSettings
  /-- Make a tree and name it. -/
  | bindName (name : String) (blueprint : Blueprint)
  /-- Make a tree and fold it, under settings made from keywords or under the default ones. -/
  | fold (blueprint : Blueprint) (kind : FoldKind) (keywords? : Option Settings.Keywords)
  /-- Keep a fold for later runs. -/
  | storeFold (name : String) (kind : FoldKind) (keywords? : Option Settings.Keywords)
  /-- Make a tree and run a fold on it that was kept earlier. -/
  | runStored (name : String) (blueprint : Blueprint)
  /-- Make two trees and compare them. -/
  | equal (left right : Blueprint) (keywords? : Option Settings.Keywords)

/-- What an operation answers. -/
inductive Answer where
  | done
  /-- Settings, and whether a second look gave the same ones. -/
  | settings (settings : Settings) (same : Bool)
  | result (value : FoldResult)
  | truth (value : Bool)

/-- Make two trees, the left one first. -/
def plantBoth (left right : Blueprint) : Action (NodeId × NodeId) := do
  let left ← plant left
  let right ← plant right
  return (left, right)

theorem blind_plantBoth (left right : Blueprint) : Blind (plantBoth left right) :=
  (blind_plant left).bind fun _ => (blind_plant right).bind fun _ => blind_pure _

namespace Operation

/-- Perform an operation. -/
def perform [Settings.Validation] : Operation → Action Answer
  | setVariable name value? => do
    Session.setVariable name value?
    return .done
  | getSettings => do
    let (settings, same) ← defaultSettings
    return .settings settings same
  | configure overrides => do
    let (settings, same) ← Session.configure overrides
    return .settings settings same
  | resetSettings => do
    Session.resetSettings
    return .done
  | bindName name blueprint => do
    Session.bind name blueprint
    return .done
  | fold blueprint kind keywords? => .result <$> Session.fold blueprint kind keywords?
  | storeFold name kind keywords? => do
    Session.storeFold name kind keywords?
    return .done
  | runStored name blueprint => .result <$> Session.runStored name blueprint
  | equal left right keywords? => .truth <$> Session.equal left right keywords?

/-- Whether an operation forgets the default settings. -/
def isReset : Operation → Bool
  | resetSettings => true
  | _ => false

/-- Whether an operation changes the environment. -/
def setsVariable : Operation → Bool
  | setVariable _ _ => true
  | _ => false

/-- Whether an operation asks for the default settings: a run does when it has no settings of its
own, once its trees are made, and a configuration does when all its names are known. -/
def asks (session : Session) : Operation → Bool
  | getSettings => true
  | configure overrides => (Ambient.unknownNames overrides).isEmpty
  | fold blueprint _ none => succeeds (plant blueprint) session
  | equal left right none => succeeds (plantBoth left right) session
  | runStored name blueprint =>
    (session.folds.lookup name).any (·.settings?.isNone) && succeeds (plant blueprint) session
  | _ => false

end Operation

/-- An operation, and the session in which it is performed. -/
structure Step where
  /-- The session before the operation. -/
  before : Session
  /-- The operation. -/
  operation : Operation

/-- The steps after the last reset. -/
def sinceReset (steps : List Step) : List Step :=
  steps.rtakeWhile fun step => !step.operation.isReset

/-- After a reset nothing counts that was before it. -/
theorem sinceReset_append_of_isReset (steps : List Step) {step : Step}
    (h : step.operation.isReset = true) : sinceReset (steps ++ [step]) = [] :=
  List.rtakeWhile_concat_neg _ _ _ (by rw [h]; exact Bool.false_ne_true)

/-- Any other step counts after the ones that did. -/
theorem sinceReset_append_of_not_isReset (steps : List Step) {step : Step}
    (h : step.operation.isReset = false) :
    sinceReset (steps ++ [step]) = sinceReset steps ++ [step] :=
  List.rtakeWhile_concat_pos _ _ _ (by rw [h]; rfl)

variable [Settings.Validation]

namespace Step

/-- What the operation came to. -/
def result (step : Step) : EStateM.Result Failure Session Answer :=
  step.operation.perform step.before

/-- The session after the operation. -/
def after (step : Step) : Session := Walk.stateAfter step.result

/-- The settings that the environment gave when the operation asked for the default ones. -/
def base? (step : Step) : Option Settings :=
  if step.operation.asks step.before then
    (Settings.validate step.before.ambient.environment []).toOption
  else none

/-- The keywords of a configuration that succeeded. -/
def round? (step : Step) : Option Settings.Keywords :=
  match step.operation with
  | .configure overrides =>
    match step.result with
    | .ok _ _ => some overrides
    | .error _ _ => none
  | _ => none

end Step

/-! ## Histories -/

/-- The steps of a process that performs some operations. -/
def history : List Operation → Session → List Step
  | [], _ => []
  | operation :: operations, session =>
    ⟨session, operation⟩ :: history operations (Step.mk session operation).after

/-- The session in which a process ends up. -/
def finish (operations : List Operation) (session : Session) : Session :=
  operations.foldl (fun session operation => (Step.mk session operation).after) session

/-- What the operations answered, in their order. -/
def outcomes (operations : List Operation) (session : Session) : List (Except Failure Answer) :=
  (history operations session).map fun step => Walk.outcome step.result

/-- One more operation adds one step. -/
theorem history_append_singleton (operations : List Operation) (operation : Operation)
    (session : Session) : history (operations ++ [operation]) session =
      history operations session ++ [⟨finish operations session, operation⟩] := by
  induction operations generalizing session with
  | nil => rfl
  | cons first operations ih => exact congrArg (_ :: ·) (ih _)

theorem finish_append_singleton (operations : List Operation) (operation : Operation)
    (session : Session) : finish (operations ++ [operation]) session =
      (Step.mk (finish operations session) operation).after :=
  List.foldl_append

/-- What the environment gave when the default was first asked for with success. -/
def base? (steps : List Step) : Option Settings := steps.findSome? Step.base?

/-- The keywords of the configurations that succeeded, in their order. -/
def rounds (steps : List Step) : List Settings.Keywords := steps.filterMap Step.round?

/-- The default settings in effect after some steps without a reset: the base with the rounds laid
over it. Where there is no base yet, the environment gives one now. -/
def inEffect (steps : List Step) (environment : Environment) :
    Except (List Settings.Error) Settings := do
  let base ← match base? steps with
    | some base => .ok base
    | none => Settings.validate environment []
  base.overlaid (rounds steps)

/-- A step gives the base only where no step before it did. -/
theorem base?_append_singleton (steps : List Step) (step : Step) :
    base? (steps ++ [step]) = (base? steps).or step.base? := by
  rw [base?, List.findSome?_append, List.findSome?_cons, List.findSome?_nil]
  cases step.base? <;> rfl

/-- A step adds its round, if it has one, behind the rounds before it. -/
theorem rounds_append_singleton (steps : List Step) (step : Step) :
    rounds (steps ++ [step]) = rounds steps ++ step.round?.toList := by
  rw [rounds, List.filterMap_append, List.filterMap_cons, List.filterMap_nil]
  cases step.round? <;> rfl

end LayeredTree.Session
