import LayeredTree.Blueprint

/-!
# Sessions

A session holds what a sequence of operations shares: the environment and the default settings,
the nodes made so far, the names bound to nodes, folds kept for later runs, and a dictionary keyed
by trees. It also takes down what happens: labels of traced nodes, notices, and the layers given
to a recording algebra. All of it is kept when an operation fails.
-/

namespace LayeredTree

/-- The algebras that a session can fold with. -/
inductive FoldKind where
  | count
  | height
  | tags
  | strings
  | debug
  | plain
  | pretty
  | notated
  | freeNames
  /-- Take down every layer and answer how many there are; give up at a given call. -/
  | recording (stopAt : Option Int)
  deriving DecidableEq, Repr

/-- A fold kept for later runs. -/
structure StoredFold where
  /-- What it computes. -/
  kind : FoldKind
  /-- Its own settings, if it does not run under the default ones. -/
  settings? : Option Settings
  /-- How many layers its recording algebra has taken down in all runs. -/
  tally : Nat := 0

/-- An entry of a dictionary keyed by trees. -/
structure Entry where
  /-- The structural hash of the key. -/
  hash : UInt64
  /-- The key. -/
  key : NodeId
  /-- What is stored under the key. -/
  value : Value

/-- The shared state of a sequence of operations. -/
structure Session where
  /-- The environment and the default settings. -/
  ambient : Ambient := {}
  /-- The names bound to nodes. -/
  scope : Scope := []
  /-- How each node reveals its layer, by the node's index. -/
  origins : Array Origin := #[]
  /-- The labels of the traced nodes that have revealed a layer, in order. -/
  produced : Array String := #[]
  /-- The notices, in order. -/
  notices : Array Notice := #[]
  /-- The layers that a recording algebra has taken down since the records were cleared. -/
  calls : Array (Layer Nat) := #[]
  /-- How many layers the recording algebra in use has taken down. -/
  tally : Nat := 0
  /-- The stored folds by name, the latest first. -/
  folds : List (String × StoredFold) := []
  /-- The dictionary, oldest entry first. -/
  entries : List Entry := []

/-- An operation on a session. -/
abbrev Action := EStateM Failure Session

namespace Session

/-- Forget what has been taken down. -/
def clearRecords (session : Session) : Session :=
  { session with produced := #[], notices := #[], calls := #[] }

/-- Record a notice. -/
def report (notice : Notice) (session : Session) : Session :=
  { session with notices := session.notices.push notice }

/-- Run an operation on the ambient settings. -/
def onAmbient {α : Type} (action : Ambient.Action α) : Action α := fun session =>
  match action session.ambient with
  | .ok value ambient => .ok value { session with ambient }
  | .error cause ambient => .error (.ofSettings cause) { session with ambient }

/-- Run a walk. -/
def walk {α : Type} (action : Walk Failure Session α) : Action α := fun session =>
  match action session with
  | .ok value session => .ok value session
  | .error reason session => .error (.ofInterruption reason) session

/-- Make a node. -/
def allocate (origin : Origin) : Action NodeId :=
  modifyGet fun session =>
    (⟨session.origins.size⟩, { session with origins := session.origins.push origin })

/-! ## The settings of a session -/

variable [Settings.Validation]

/-- Read settings from keywords, where there are any. -/
def readSettings : Option Settings.Keywords → Action (Option Settings)
  | none => return none
  | some keywords => some <$> onAmbient (Ambient.read keywords)

/-- The settings to walk under: given ones, or else the default ones. -/
def guards : Option Settings → Action Settings
  | some settings => return settings
  | none => onAmbient Ambient.current

/-- The default settings, and whether a second look gives the same ones. -/
def defaultSettings : Action (Settings × Bool) := do
  let first ← guards none
  let second ← guards none
  return (first, first == second)

/-- Replace fields of the default settings. The answer says also whether the new settings are now
the default. -/
def configure (overrides : Settings.Keywords) : Action (Settings × Bool) := do
  let settings ← onAmbient (Ambient.configure overrides)
  modify (report (.settingsReplaced settings))
  let current ← guards none
  return (settings, settings == current)

/-- Forget the default settings. -/
def resetSettings : Action Unit := onAmbient Ambient.reset

/-- Set or remove an environment variable. -/
def setVariable (name : String) (value? : Option String) : Action Unit :=
  onAmbient (Ambient.setVariable name value?)

end Session

end LayeredTree
