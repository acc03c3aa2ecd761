import LayeredTree.Settings.Validation

/-!
# The default settings of a process

The default is read from the environment when it is first needed and then kept, until it is
reset. Configuring replaces some of its fields; the names are checked first, then the default is
read if it was not, and only then the new values. How raw values are read is up to the validation.
-/

namespace LayeredTree

/-- The environment of a process and its default settings, once they have been read. -/
structure Ambient where
  /-- The environment variables as they are now. -/
  environment : Environment := {}
  /-- The default settings, if they have been read since the last reset. -/
  current? : Option Settings := none
  deriving Repr

namespace Settings

/-- Why an operation on settings or their environment failed. -/
inductive Failure where
  /-- Some raw values were not accepted. -/
  | invalid (errors : List Error)
  /-- Names that are no fields, in order. -/
  | unknown (names : List String)
  /-- A variable that cannot be set. -/
  | variable (fault : Environment.Fault)
  deriving Repr

end Settings

namespace Ambient

/-- An operation on the ambient settings. -/
abbrev Action := EStateM Settings.Failure Ambient

/-- The names among the keywords that are no fields, each once, in the order of their code
points. -/
def unknownNames (keywords : Settings.Keywords) : List String :=
  let names := keywords.map (·.1)
  let known := Settings.fields.map (·.name)
  (names.filter fun name => !known.contains name).eraseDups.mergeSort

section Validated

variable [Settings.Validation]

/-- Read settings from keywords and the environment, without touching the default. -/
def read (keywords : Settings.Keywords) : Action Settings := do
  match Settings.validate (← get).environment keywords with
  | .ok settings => return settings
  | .error errors => throw (.invalid errors)

/-- Read settings and keep them as the default. -/
def adopt (keywords : Settings.Keywords) : Action Settings := do
  let settings ← read keywords
  modify fun ambient => { ambient with current? := some settings }
  return settings

/-- The default settings. The first use since a reset reads the environment. -/
def current : Action Settings := do
  match (← get).current? with
  | some settings => return settings
  | none => adopt []

/-- Replace fields of the default settings. -/
def configure (overrides : Settings.Keywords) : Action Settings := do
  let unknown := unknownNames overrides
  unless unknown.isEmpty do throw (.unknown unknown)
  let base ← current
  adopt (overrides.onto base.dump)

end Validated

/-- Forget the default settings. -/
def reset : Action Unit :=
  modify fun ambient => { ambient with current? := none }

/-- Set or remove an environment variable. -/
def setVariable (name : String) : Option String → Action Unit
  | none => modify fun ambient => { ambient with environment := ambient.environment.unset name }
  | some value => do
    if let some fault := Environment.fault? name value then throw (.variable fault)
    modify fun ambient => { ambient with environment := ambient.environment.set name value }

end Ambient

end LayeredTree
