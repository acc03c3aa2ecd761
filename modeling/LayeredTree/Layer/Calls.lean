import LayeredTree.Layer.Basic

/-!
# Operations on layers by calls

Mapping a layer calls a transform on its payloads, and comparing two layers asks a question about
pairs of payloads. The calls may have effects and may fail. Payloads are visited in declared order,
up to the first failure and, in a comparison, up to the first difference.
-/

universe u v w

namespace LayeredTree

/-- Causes of failure, among them the signal that there are no more items. -/
class EndSignal (ε : Type) where
  /-- Whether a cause is the signal. -/
  isSignal : ε → Bool
  /-- The failure of a sequence that the signal has cut short. -/
  cutShort : ε

/-- The failure of a sequence in which a call has failed. Only the signal does not come through. -/
def EndSignal.convert {ε : Type} [EndSignal ε] (cause : ε) : ε :=
  if isSignal cause then cutShort else cause

namespace Layer

section Mapping

variable {ε σ α β : Type} [EndSignal ε]

/-- Run the calls of a sequence. The signal that there are no more items cuts the sequence short. -/
@[inline]
def inSequence (action : EStateM ε σ α) : EStateM ε σ α := fun state =>
  match action state with
  | .ok answer state => .ok answer state
  | .error cause state => .error (EndSignal.convert cause) state

/-- Call a transform on every payload in declared order, preserving the variant. -/
@[specialize]
def mapCalls (f : α → EStateM ε σ β) : Layer α → EStateM ε σ (Layer β)
  | apply callee arguments => do
    let callee ← f callee
    let arguments ← inSequence (arguments.mapM f)
    return apply callee arguments
  | abstract parameters body => do
    let parameters ← inSequence (parameters.mapM f)
    let body ← f body
    return abstract parameters body
  | assign name value => do
    let value ← f value
    return assign name value
  | var name => return var name
  | literal value => return literal value
  | group label members => do
    let label ← f label
    let members ← inSequence (members.mapM f)
    return group label members

end Mapping

section Comparing

variable {α : Type u} {β : Type v} {m : Type → Type w} [Monad m]

/-- Compare two lists place by place. Lists of different lengths differ, but only after the places
that they have in common. -/
@[specialize]
def agreeAllBy (ask : α → β → m Bool) : List α → List β → m Bool
  | [], [] => return true
  | left :: lefts, right :: rights => do
    if ← ask left right then agreeAllBy ask lefts rights else return false
  | _, _ => return false

/-- Compare two layers field by field. Layers of different variants differ at once. -/
@[specialize]
def agreesBy (ask : α → β → m Bool) : Layer α → Layer β → m Bool
  | apply left lefts, apply right rights => do
    if ← ask left right then agreeAllBy ask lefts rights else return false
  | abstract lefts left, abstract rights right => do
    if ← agreeAllBy ask lefts rights then ask left right else return false
  | assign name left, assign name' right =>
    if name = name' then ask left right else return false
  | var name, var name' => return name == name'
  | literal value, literal value' => return value == value'
  | group left lefts, group right rights => do
    if ← ask left right then agreeAllBy ask lefts rights else return false
  | _, _ => return false

end Comparing

end Layer

end LayeredTree
