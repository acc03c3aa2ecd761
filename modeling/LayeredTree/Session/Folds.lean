import LayeredTree.Algebra
import LayeredTree.Document.Builder
import LayeredTree.Document.Layout
import LayeredTree.Fold.Loop
import LayeredTree.Session.Nodes
import LayeredTree.Session.State

/-!
# Folds in a session

Every rendering and measure is a fold of a node of the session. A recording algebra takes down
the layers that it is given; a stored fold goes on counting them in its next run.
-/

namespace LayeredTree

/-- Documents that hold nothing but documents. -/
abbrev PureDocument := Document Empty

/-- The text of a document that holds nothing but documents. -/
def PureDocument.render (doc : PureDocument) : String :=
  match Document.render doc with
  | .ok text => text
  | .error thing => nomatch thing

namespace Session

variable [Settings.Validation]

/-- Fold a node under given settings, or else under the default ones. -/
def foldWith {α : Type} (settings? : Option Settings) (algebra : Algebra Failure Session α)
    (id : NodeId) : Action α := do
  let settings ← guards settings?
  walk (forest.fold settings algebra id)

/-- Fold a node by an algebra without effects. -/
def foldPure {α : Type} (settings? : Option Settings) (combine : Layer α → α) (id : NodeId) :
    Action α :=
  foldWith settings? (.ofPure combine) id

/-- The recording algebra. -/
def recordCall (stopAt : Option Int) : Algebra Failure Session Nat := fun layer => do
  let tally := (← get).tally + 1
  modify fun session => { session with calls := session.calls.push layer, tally }
  match stopAt with
  | some call => if (tally : Int) = call then throw (.algebraStopped call) else return tally
  | none => return tally

/-- The answer of a fold. -/
inductive FoldResult where
  | number (value : Int)
  | words (values : List String)
  | text (value : String)
  | document (value : PureDocument)

/-- Run a fold of a given kind. -/
def runKind (kind : FoldKind) (settings? : Option Settings) (id : NodeId) : Action FoldResult :=
  match kind with
  | .count => do return .number (← foldPure settings? Algebra.count id)
  | .height => do return .number (← foldPure settings? Algebra.height id)
  | .tags => .words <$> foldPure settings? Algebra.tags id
  | .strings => .words <$> foldPure settings? Algebra.strings id
  | .debug => .text <$> foldPure settings? Algebra.debug id
  | .plain => .text <$> foldPure settings? Algebra.plain id
  | .pretty => .document <$> foldPure settings? Builder.reference.assemble id
  | .notated => .text <$> foldPure settings? Builder.notated.assemble id
  | .freeNames => do return .words (← foldPure settings? Algebra.freeNames id).mergeSort
  | .recording stopAt => do return .number (← foldWith settings? (recordCall stopAt) id)

/-- Make a tree and fold it. The settings are read after the tree has been made. -/
def fold (blueprint : Blueprint) (kind : FoldKind) (keywords? : Option Settings.Keywords) :
    Action FoldResult := do
  let id ← plant blueprint
  let settings? ← readSettings keywords?
  modify fun session => { session with tally := 0 }
  runKind kind settings? id

/-- Keep a fold under a name. Its settings are read now. -/
def storeFold (name : String) (kind : FoldKind) (keywords? : Option Settings.Keywords) :
    Action Unit := do
  let settings? ← readSettings keywords?
  modify fun session => { session with folds := (name, ⟨kind, settings?, 0⟩) :: session.folds }

/-- The kind of a stored fold. -/
def storedKind? (name : String) (session : Session) : Option FoldKind :=
  (session.folds.lookup name).map (·.kind)

/-- Run an operation and keep the number of calls that it leads to with the fold of a name. -/
def keepingTally {α : Type} (name : String) (action : Action α) : Action α :=
  tryFinally action do
    modify fun session =>
      { session with
        folds := session.folds.map fun (other, stored) =>
          if other == name then (other, { stored with tally := session.tally })
          else (other, stored) }

/-- Make a tree and run a stored fold on it. -/
def runStored (name : String) (blueprint : Blueprint) : Action FoldResult := do
  match (← get).folds.lookup name with
  | none => throw (.unbound name)
  | some stored =>
    let id ← plant blueprint
    modify fun session => { session with tally := stored.tally }
    keepingTally name (runKind stored.kind stored.settings? id)

/-- Make a tree and assemble its document through a builder, under the default settings. -/
def pretty {δ : Type} (builder : Builder δ) (blueprint : Blueprint) : Action δ := do
  foldPure none builder.assemble (← plant blueprint)

/-- The ways in which a tree is written as text. -/
inductive RenderMode where
  | debug
  | plain
  | pretty
  deriving DecidableEq, Repr

/-- Write a node as text, under the default settings. -/
def renderNode (id : NodeId) : RenderMode → Action String
  | .debug => foldPure none Algebra.debug id
  | .plain => foldPure none Algebra.plain id
  | .pretty => do
    let doc : PureDocument ← foldPure none Builder.reference.assemble id
    return doc.render

/-- Make a tree and write it in several ways, one after the other. -/
def render (blueprint : Blueprint) (modes : List RenderMode) : Action (List String) := do
  let id ← plant blueprint
  modes.mapM (renderNode id)

/-- What several readings of the layer of one node gave. -/
structure LayerReport where
  /-- The layers, with every child in its plain rendering. -/
  layers : List (Layer String)
  /-- The plain renderings of the children of the first layer. -/
  payloads : List String
  /-- All readings gave one and the same layer. -/
  sameLayer : Bool

/-- Make a tree and read the layer of its root a number of times, at least once. -/
def readLayer (blueprint : Blueprint) (times : Nat) : Action LayerReport := do
  let id ← plant blueprint
  let readings ← (List.replicate times id).mapM reveal
  let plainly := fun child => renderNode child .plain
  let layers ← readings.mapM fun reading => reading.layer.mapCalls plainly
  let payloads ← match readings with
    | first :: _ => first.layer.payloads.mapM plainly
    | [] => throw .noReading
  return {
    layers
    payloads
    sameLayer := readings.all fun reading => some reading.owner == readings.head?.map (·.owner) }

end Session

end LayeredTree
