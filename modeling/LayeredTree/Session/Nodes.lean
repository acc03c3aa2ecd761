import LayeredTree.Session.State

/-!
# The nodes of a session

Evaluating a blueprint makes nodes from left to right. Revealing the layer of a node evaluates its
body if it has one; where the root of the new tree has a body of its own, that one is evaluated in
turn. So a layer always belongs to a node that holds it, and two readings gave the same layer when
they belong to the same node.
-/

namespace LayeredTree

namespace Blueprint

open Session

mutual

/-- Make the nodes of a blueprint and answer its root. -/
def evaluate (scope : Scope) : Blueprint → Action NodeId
  | node (.apply callee arguments) => do
    let callee ← evaluate scope callee
    let arguments ← evaluateAll scope arguments
    allocate (.captured (.apply callee arguments))
  | node (.abstract parameters body) => do
    let parameters ← evaluateAll scope parameters
    let body ← evaluate scope body
    allocate (.captured (.abstract parameters body))
  | node (.assign name value) => do
    let value ← evaluate scope value
    allocate (.captured (.assign name value))
  | node (.var name) => allocate (.captured (.var name))
  | node (.literal value) => allocate (.captured (.literal value))
  | node (.group label members) => do
    let label ← evaluate scope label
    let members ← evaluateAll scope members
    allocate (.captured (.group label members))
  | deferred body => allocate (.deferred body scope)
  | traced label body => allocate (.traced label body scope)
  | refusing signal text => allocate (.refusing signal text)
  | bound name value body => do
    let id ← evaluate scope value
    evaluate ((name, .node id) :: scope) body
  | ref name =>
    match scope.lookup name with
    | some (.node id) => return id
    | some (.endless body outer) => allocate (.endless name body outer)
    | none => throw (.unbound name)
  | recursive name body => allocate (.recursive name body scope)
  | endless name body => allocate (.endless name body scope)
  | repeated count name wrapper start => do
    let first ← evaluate scope start
    (List.replicate count ()).foldlM
      (fun previous _ => evaluate ((name, .node previous) :: scope) wrapper) first
  | foreign kind => throw (.notATree kind)

/-- Make the nodes of several blueprints and answer their roots. -/
def evaluateAll (scope : Scope) : List Blueprint → Action (List NodeId)
  | [] => return []
  | blueprint :: blueprints => do
    let id ← evaluate scope blueprint
    let ids ← evaluateAll scope blueprints
    return id :: ids

end

end Blueprint

namespace Session

/-- A layer and the node that holds it. -/
structure Reading where
  /-- The node that holds the layer. -/
  owner : NodeId
  /-- The layer. -/
  layer : Layer NodeId

/-- Make the tree that a node reveals and answer its root. -/
def unwrap (id : NodeId) : Origin → Action NodeId
  | .captured _ => return id
  | .deferred body scope => body.evaluate scope
  | .traced label body scope => do
    modify fun session => { session with produced := session.produced.push label }
    body.evaluate scope
  | .refusing signal text => throw (.refused signal text)
  | .recursive name body scope => body.evaluate ((name, .node id) :: scope)
  | .endless name body scope => body.evaluate ((name, .endless body scope) :: scope)

/-- Reveal the layer of a node, in at most a given number of turns. -/
def revealWithin : Nat → NodeId → Action Reading
  | 0, _ => throw .endless
  | turns + 1, id => do
    match (← get).origins[id.index]? with
    | some (.captured layer) => return ⟨id, layer⟩
    | some origin => do
      let root ← unwrap id origin
      revealWithin turns root
    | none => throw .endless

/-- In how many turns a layer has to be revealed. -/
def turnLimit : Nat := 100000

/-- Reveal the layer of a node. -/
def reveal (id : NodeId) : Action Reading := revealWithin turnLimit id

/-- The nodes of a session as a forest. -/
def forest : Forest Failure Session NodeId where
  produce id := do return (← reveal id).layer
  report := report

/-- Make the tree of a blueprint under the names bound so far. -/
def plant (blueprint : Blueprint) : Action NodeId := do
  blueprint.evaluate (← get).scope

/-- Bind a name to the tree of a blueprint, for blueprints evaluated later. -/
def bind (name : String) (blueprint : Blueprint) : Action Unit := do
  let id ← plant blueprint
  modify fun session => { session with scope := (name, .node id) :: session.scope }

end Session

end LayeredTree
