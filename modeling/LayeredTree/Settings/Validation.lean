import LayeredTree.Settings.Basic
import LayeredTree.Value

/-!
# Validation of settings

Settings are made of an environment and keywords. How raw values become settings is left open: a
validation is any function from these to settings or to errors. What is known of it are two laws. A
value that is given for a field wins over the environment, and settings that have been accepted may
stand for what they were made from.
-/

namespace LayeredTree

/-- The environment variables of a process, oldest first. -/
structure Environment where
  /-- Names and values, in the order in which the names were first set. -/
  entries : List (String × String) := []
  deriving Repr

namespace Environment

/-- Why a variable cannot be set. -/
inductive Fault where
  /-- The name or the value has a null character in it. -/
  | nullCharacter
  /-- The name has an equals sign in it. -/
  | equalsSign
  /-- The name is empty. -/
  | emptyName
  deriving DecidableEq, Repr

/-- What is wrong with setting a variable. -/
def fault? (name value : String) : Option Fault :=
  if name.contains '\x00' || value.contains '\x00' then some .nullCharacter
  else if name.contains '=' then some .equalsSign
  else if name.isEmpty then some .emptyName
  else none

/-- Set a variable. A name that is already set keeps its place in the order. -/
def set (environment : Environment) (name value : String) : Environment :=
  if environment.entries.any (·.1 == name) then
    { environment with
      entries := environment.entries.map fun entry =>
        if entry.1 == name then (name, value) else entry }
  else { environment with entries := environment.entries ++ [(name, value)] }

/-- Remove a variable. -/
def unset (environment : Environment) (name : String) : Environment :=
  { environment with entries := environment.entries.filter (·.1 != name) }

end Environment

namespace Settings

/-- Raw values given under names, the names of fields and others. -/
abbrev Keywords := List (String × Value)

namespace Keywords

/-- Keywords laid over earlier ones. A name that is given again keeps its place and gets the later
value; the other later names follow. -/
def onto (later earlier : Keywords) : Keywords :=
  (earlier.map fun entry => (entry.1, (later.lookup entry.1).getD entry.2)) ++
    later.filter fun entry => (earlier.lookup entry.1).isNone

/-- All names are names of fields. -/
def Known (keywords : Keywords) : Prop :=
  ∀ entry ∈ keywords, ∃ field : Field, field.name = entry.1

/-- Every field has a value. -/
def Complete (keywords : Keywords) : Prop :=
  ∀ field : Field, (keywords.lookup field.name).isSome = true

end Keywords

/-- The raw value of a field. -/
def raw (settings : Settings) : Field → Value
  | .maxDepth => .int settings.maxDepth
  | .detectCycles => .bool settings.detectCycles

/-- Settings as keywords, one for each field. -/
def dump (settings : Settings) : Keywords :=
  fields.map fun field => (field.name, settings.raw field)

/-- A way in which settings are made of an environment and keywords. -/
class Validation where
  /-- The settings, or what is wrong with the raw values. -/
  validate : Environment → Keywords → Except (List Error) Settings

export Validation (validate)

/-- What is known of a validation. -/
class LawfulValidation [Validation] : Prop where
  /-- Values that are given win over the environment: where all are given, it does not matter. -/
  validate_of_complete {keywords : Keywords} (complete : keywords.Complete)
    (environment environment' : Environment) :
    validate environment keywords = validate environment' keywords
  /-- Settings that were accepted may stand for what they were made from, whatever is laid over. -/
  validate_onto_dump {environment : Environment} {keywords : Keywords} {settings : Settings}
    (known : keywords.Known) (accepted : validate environment keywords = .ok settings)
    {later : Keywords} (later_known : later.Known) :
    validate environment (later.onto settings.dump) = validate environment (later.onto keywords)

end Settings

end LayeredTree
