import LayeredTree.Subject

/-!
# Mapping transforms over a layer

Transforms map over a subject one after the other. The tape takes down every payload that a
transform is given and every layer that came out, and is kept when a transform fails.
-/

namespace LayeredTree

/-- A function on payloads. -/
inductive Transform where
  /-- The payload itself. -/
  | keep
  /-- One more. -/
  | increment
  /-- Ten times as much. -/
  | tenfold
  /-- The payload in decimal notation. -/
  | decimal
  /-- The number of the call. -/
  | index
  /-- The payload itself, but the call of this number fails. -/
  | stopAt (call : Int)
  deriving DecidableEq, Repr

/-- What transforms have been given and what came out. -/
structure Tape where
  /-- The payloads given to transforms, in order. -/
  calls : Array Value := #[]
  /-- The layers that came out, in order. -/
  results : Array (Layer Value) := #[]

namespace Value

/-- A payload plus one. -/
def increment : Value → Except Failure Value
  | int value => .ok (.int (value + 1))
  | bool value => .ok (.int (if value then 2 else 1))
  | float value => .ok (.float (value.addInt 1))
  | string _ => .error (.textExtension "int")
  | other => .error (.operandKinds "+" other.kindName "int")

/-- A payload times ten: a text or a list is written ten times in a row. -/
def tenfold : Value → Except Failure Value
  | int value => .ok (.int (value * 10))
  | bool value => .ok (.int (if value then 10 else 0))
  | float value => .ok (.float (value.scale 10))
  | string value => .ok (.string (String.join (List.replicate 10 value)))
  | array items => .ok (.array (List.replicate 10 items).flatten)
  | other => .error (.operandKinds "*" other.kindName "int")

end Value

namespace Transform

/-- Apply a transform to a payload that has already been taken down as a call. -/
def result (calls : Nat) (payload : Value) : Transform → Except Failure Value
  | keep => .ok payload
  | increment => payload.increment
  | tenfold => payload.tenfold
  | decimal => .ok (.string payload.written)
  | index => .ok (.int calls)
  | stopAt call => if (calls : Int) = call then .error (.transformStopped call) else .ok payload

/-- Take down a payload and apply a transform to it. -/
def run (transform : Transform) (payload : Value) : EStateM Failure Tape Value := do
  modify fun tape => { tape with calls := tape.calls.push payload }
  match transform.result (← get).calls.size payload with
  | .ok value => return value
  | .error cause => throw cause

/-- Map transforms over a subject, each over the layer that came out before. -/
def runAll : Subject → List Transform → EStateM Failure Tape Unit
  | _, [] => return
  | none, _ :: _ => throw .notALayer
  | some layer, transform :: transforms => do
    let layer ← layer.mapCalls transform.run
    modify fun tape => { tape with results := tape.results.push layer }
    runAll (some layer) transforms

end Transform

end LayeredTree
