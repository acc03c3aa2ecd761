import LayeredTree.Layer.Calls
import LayeredTree.Payload
import LayeredTree.Session.Folds
import LayeredTree.Slots

/-!
# Single layers of plain data

A subject is what an operation on a single layer is given: a layer whose payloads are plain data,
or nothing of the kind. The algebras that expect texts, numbers or lists as payloads say which
payload does not fit, and so do the builders: each takes payloads as they are, or as texts made by
itself.
-/

namespace LayeredTree

/-- A layer of plain data, if it is one at all. -/
abbrev Subject := Option (Layer Value)

namespace Layer

/-- The payloads of a sequence as texts. The first payload that is none is reported. -/
def textItems : List Value → Except Failure (List String) := readItems Value.asPart ⟨0, false⟩

/-- A layer with its payloads in their notation, except that sequences must hold texts. -/
def shown : Layer Value → Except Failure (Layer String)
  | apply callee arguments => do return apply callee.written (← textItems arguments)
  | abstract parameters body => do return abstract (← textItems parameters) body.written
  | assign name value => .ok (assign name value.written)
  | var name => .ok (var name)
  | literal value => .ok (literal value)
  | group label members => do return group label.written (← textItems members)

/-- A layer with its payloads as texts for the plain rendering, which extends the text of a
group's label. -/
def shownPlainly : Layer Value → Except Failure (Layer String)
  | group (.string label) members => do return group label (← textItems members)
  | group label _ => .error (.operandKinds "+" label.kindName "str")
  | layer => layer.shown

/-- The free names of a layer whose payloads are lists of names, each once and in order. -/
def freeNames : Layer Value → Except Failure (List String)
  | abstract parameters body => do
    let _ ← parameters.mapM Value.characters
    throw (.operandKinds "-" body.kindName "frozenset")
  | layer => do
    return (Algebra.freeNames (← layer.traverse Value.characters)).eraseDups.mergeSort

end Layer

namespace Subject

/-- The layer of a subject. -/
def layer : Subject → Except Failure (Layer Value)
  | some layer => .ok layer
  | none => .error .notALayer

/-- The payloads of a subject. -/
def payloads (subject : Subject) : Except Failure (List Value) := do
  return (← subject.layer).payloads

/-- Whether two subjects are equal, and whether they have the same shape. -/
def compare (left right : Subject) : Except Failure (Bool × Bool) := do
  let left ← left.layer
  let right ← right.layer
  let equal ← left.agreesBy (fun value other => return value.agrees other) right
  return (equal, left.sameShape right)

/-- The reference document of a subject. Payloads as they are stand in it for documents. -/
def document (lifted : Bool) (subject : Subject) : Except Failure PureDocument := do
  let read := if lifted then Value.asText else Value.asDocument
  return Builder.reference.assemble (← (← subject.layer).traverse read)

/-- The document of a subject as a string. A text made by the builder is the text itself. -/
def string (subject : Subject) : Except Failure String := do
  return Builder.string.assemble (← (← subject.layer).readSlots Value.asPart)

/-- The document of a subject in the notation of the construction steps. Any payload can be made a
text. -/
def notated (lifted : Bool) (subject : Subject) : Except Failure String := do
  let layer ← subject.layer
  let parts ← if lifted then pure (layer.map fun value => Builder.notated.text value.written)
    else layer.readSlots Value.asPart
  return Builder.notated.assemble parts

/-- The document of a subject as indented lines. In a stack, a payload as it is must be a list. -/
def indented (lifted : Bool) (subject : Subject) : Except Failure Block := do
  let read := fun (slot : Slot) (value : Value) =>
    if lifted then value.asLine
    else if slot.stacked then value.characters
    else value.asRowPart
  return Builder.indenting.assemble (← (← subject.layer).readSlots read)

/-- The answer of an algebra on a single layer. -/
def runKind (kind : FoldKind) (subject : Subject) : Except Failure Session.FoldResult := do
  let layer ← subject.layer
  match kind with
  | .count => return .number ((← layer.payloads.mapM Value.integer).foldl (· + ·) 1)
  | .height =>
    match layer.payloads with
    | [] => return .number 1
    | first :: rest => return .number (1 + (← (← Value.largest first rest).integer))
  | .tags => return .words (Algebra.tags (← layer.traverse Value.characters))
  | .strings => return .words (Algebra.strings (← layer.traverse Value.characters))
  | .debug => return .text (Algebra.debug (← layer.shown))
  | .plain => return .text (Algebra.plain (← layer.shownPlainly))
  | .pretty => return .document (← subject.document false)
  | .notated => return .text (← subject.notated false)
  | .freeNames => return .words (← layer.freeNames)
  | .recording stopAt =>
    if stopAt = some 1 then throw (.algebraStopped 1) else return .number 1

end Subject

end LayeredTree
