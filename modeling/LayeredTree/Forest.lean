import LayeredTree.Layer.Basic
import LayeredTree.Settings.Basic

/-!
# Forests

A forest is a collection of nodes, each of which reveals its layer on demand. The payloads of a
layer are nodes again, so a node stands for the whole tree below it; that tree may share nodes,
contain itself, or never end. Revealing a layer may change a state and may fail, and it may give
other nodes each time. Only the identity of nodes is observed, through `==`.

A walk over a forest stops early for one of the reasons in `Interruption`. When a guard stops it,
the walk leaves one notice behind.
-/

namespace LayeredTree

/-- What the library records about guards and settings. -/
inductive Notice where
  /-- A fold met a node below itself, under this many nodes. -/
  | cycleDetected (depth : Nat)
  /-- A fold met a node below the depth bound. -/
  | foldLimitReached (limit : Nat)
  /-- A comparison met a pair below the depth bound. -/
  | comparisonLimitReached (limit : Nat)
  /-- The default settings were replaced. -/
  | settingsReplaced (settings : Settings)
  deriving DecidableEq, Repr

/-- The text of a notice. -/
def Notice.message : Notice → String
  | cycleDetected depth => s!"Cycle detected at depth {depth}"
  | foldLimitReached limit => s!"Depth limit {limit} reached"
  | comparisonLimitReached limit => s!"Depth limit {limit} reached during comparison"
  | settingsReplaced settings => "Fold settings replaced: " ++ settings.summary

/-- Why a walk ended without an answer. -/
inductive Interruption (ε : Type) where
  /-- A node was met again below itself, under a path of this many nodes. -/
  | cyclic (depth : Nat)
  /-- A path has more nodes than this bound allows. -/
  | tooDeep (limit : Nat)
  /-- Revealing a layer or combining results failed. -/
  | raised (cause : ε)
  /-- A layer did not get one result for each payload. -/
  | starved
  deriving DecidableEq, Repr

/-- Computations on a walk: they share the state `σ`, fail with causes in `ε`, and keep the state
when they fail. -/
abbrev Walk (ε σ : Type) := EStateM (Interruption ε) σ

/-- Nodes of type `ν` whose layers are revealed on demand. -/
structure Forest (ε σ ν : Type) where
  /-- Reveal the layer of a node. -/
  produce : ν → EStateM ε σ (Layer ν)
  /-- Record a notice. -/
  report : Notice → σ → σ

namespace Forest

variable {ε σ ν α : Type}

/-- Run a computation that knows nothing of guards as a part of a walk. -/
@[inline]
def lift (action : EStateM ε σ α) : Walk ε σ α := fun state =>
  match action state with
  | .ok value state => .ok value state
  | .error cause state => .error (.raised cause) state

/-- Record a notice and stop. -/
@[inline]
def stop (forest : Forest ε σ ν) (notice : Notice) (reason : Interruption ε) : Walk ε σ α :=
  fun state => .error reason (forest.report notice state)

/-- Reveal the layer of a node as a part of a walk. -/
@[inline]
def reveal (forest : Forest ε σ ν) (node : ν) : Walk ε σ (Layer ν) :=
  lift (forest.produce node)

end Forest

end LayeredTree
