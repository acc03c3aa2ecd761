import LayeredTree.Failure
import LayeredTree.Layer.Basic

/-!
# The slots of a layer

Where a layer's payloads come to stand when its text or document is put together: each is an item
of a list of parts, and the members of a group are stacked. The sequence of a layer is put together
first, so of several payloads that do not fit, one in the sequence is met first.
-/

namespace LayeredTree

/-- A place for a payload. -/
structure Slot where
  /-- The place in the list of parts. -/
  position : Nat
  /-- The parts stand below each other, not in a row. -/
  stacked : Bool := false
  deriving DecidableEq, Repr

namespace Layer

variable {α β : Type}

/-- Read the items of a sequence, each for its slot. -/
def readItems (read : Slot → α → Except Failure β) (slot : Slot) :
    List α → Except Failure (List β)
  | [] => .ok []
  | item :: items => do
    let item ← read slot item
    let items ← readItems read { slot with position := slot.position + 1 } items
    return item :: items

/-- Read the payloads of a layer for their slots, the sequence first. -/
def readSlots (read : Slot → α → Except Failure β) : Layer α → Except Failure (Layer β)
  | apply callee arguments => do
    let arguments ← readItems read ⟨0, false⟩ arguments
    return apply (← read ⟨0, false⟩ callee) arguments
  | abstract parameters body => do
    let parameters ← readItems read ⟨0, false⟩ parameters
    return abstract parameters (← read ⟨3, false⟩ body)
  | assign name value => do return assign name (← read ⟨2, false⟩ value)
  | var name => .ok (var name)
  | literal value => .ok (literal value)
  | group label members => do
    let members ← readItems read ⟨0, true⟩ members
    return group (← read ⟨0, false⟩ label) members

end Layer

namespace Value

/-- A value as a text that is joined to others. -/
def asPart (slot : Slot) : Value → Except Failure String
  | string text => .ok text
  | other => .error (.textItem slot.position other.kindName)

end Value

end LayeredTree
