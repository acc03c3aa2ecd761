/-!
# Guard settings

The settings of a walk are a bound on the number of nodes on a path and a switch for the
detection of cycles. The bound is positive, so the root of a tree is always within it.
-/

namespace LayeredTree

/-- The guards that a walk applies. -/
structure Settings where
  /-- The largest number of nodes that a path from the root may have. -/
  maxDepth : Nat := 100000
  /-- Whether a node below itself is reported as a cycle. -/
  detectCycles : Bool := true
  /-- The root is within the bound. -/
  maxDepth_pos : 0 < maxDepth := by decide
  deriving DecidableEq, Repr

namespace Settings

/-- The fields that can be set from outside. -/
inductive Field where
  | maxDepth
  | detectCycles
  deriving DecidableEq, Repr

/-- The name under which a field is set. -/
def Field.name : Field → String
  | .maxDepth => "max_depth"
  | .detectCycles => "detect_cycles"

/-- The fields in the order in which they are checked. -/
def fields : List Field := [.maxDepth, .detectCycles]

/-- A field and the code of what is wrong with the value offered for it. -/
structure Error where
  /-- The field that was not accepted. -/
  field : Field
  /-- Why its value was not accepted. -/
  code : String
  deriving DecidableEq, Repr

/-- Settings as one line of text. -/
def summary (settings : Settings) : String :=
  let detect := if settings.detectCycles then "True" else "False"
  s!"max_depth={settings.maxDepth} detect_cycles={detect}"

end Settings

end LayeredTree
