/-!
# Layers

A layer is one level of an expression tree: one of six variants, with a payload of type `α` in
every place where a child belongs. The payload may be a node, a finished result or a unit, so a
layer says nothing about the depth of the tree that it is part of. A layer is determined by its
shape and its payload list: `Layer.traverse` visits the payloads in declared order, and
`Layer.refill` puts a list of new payloads back into the same places.
-/

universe u v w

namespace LayeredTree

/-- One level of an expression tree with payloads of type `α`. -/
inductive Layer (α : Type u) where
  /-- Application of a callee to its arguments. -/
  | apply (callee : α) (arguments : List α)
  /-- Abstraction of a body over parameters, which are payloads and not bare names. -/
  | abstract (parameters : List α) (body : α)
  /-- A value bound to a name. -/
  | assign (name : String) (value : α)
  /-- A reference to a name. -/
  | var (name : String)
  /-- An opaque literal token. -/
  | literal (value : String)
  /-- A labelled sequence of members, such as a block or a scope. -/
  | group (label : α) (members : List α)
  deriving DecidableEq, Repr

namespace Layer

variable {α : Type u} {β : Type v} {γ : Type w}

/-- Apply `f` to every payload and keep everything else. -/
def map (f : α → β) : Layer α → Layer β
  | apply callee arguments => apply (f callee) (arguments.map f)
  | abstract parameters body => abstract (parameters.map f) (f body)
  | assign name value => assign name (f value)
  | var name => var name
  | literal value => literal value
  | group label members => group (f label) (members.map f)

/-- Every payload occurrence in declared order. -/
def payloads : Layer α → List α
  | apply callee arguments => callee :: arguments
  | abstract parameters body => parameters ++ [body]
  | assign _ value => [value]
  | var _ => []
  | literal _ => []
  | group label members => label :: members

/-- The variant, the strings and the sequence lengths of a layer: all but its payloads. -/
def shape (layer : Layer α) : Layer Unit := layer.map fun _ => ()

/-- Two layers have the same shape when they differ at most in their payloads. -/
def sameShape (left : Layer α) (right : Layer β) : Bool := left.shape == right.shape

/-- The strings that a layer holds itself, in field order. -/
def strings : Layer α → List String
  | assign name _ => [name]
  | var name => [name]
  | literal value => [value]
  | _ => []

/-- Run `f` on every payload in declared order and rebuild the layer from the answers. What fails
fails as it is; `Layer.mapCalls` maps by calls of a transform. -/
@[specialize]
def traverse {m : Type v → Type w} [Monad m] (f : α → m β) : Layer α → m (Layer β)
  | apply callee arguments => do
    let callee ← f callee
    let arguments ← arguments.mapM f
    return apply callee arguments
  | abstract parameters body => do
    let parameters ← parameters.mapM f
    let body ← f body
    return abstract parameters body
  | assign name value => do
    let value ← f value
    return assign name value
  | var name => return var name
  | literal value => return literal value
  | group label members => do
    let label ← f label
    let members ← members.mapM f
    return group label members

/-- The layer of the same shape that holds `items` as its payloads, when there is exactly one
item for each payload. -/
def refill : Layer α → List β → Option (Layer β)
  | apply _ arguments, callee :: rest =>
    if rest.length = arguments.length then some (apply callee rest) else none
  | abstract parameters _, items =>
    if items.length = parameters.length + 1 then
      items.getLast?.map fun body => abstract items.dropLast body
    else none
  | assign name _, [value] => some (assign name value)
  | var name, [] => some (var name)
  | literal value, [] => some (literal value)
  | group _ members, label :: rest =>
    if rest.length = members.length then some (group label rest) else none
  | _, _ => none

@[simp] theorem map_id (layer : Layer α) : layer.map id = layer := by
  cases layer <;> simp [map]

@[simp] theorem map_map (g : β → γ) (f : α → β) (layer : Layer α) :
    (layer.map f).map g = layer.map (g ∘ f) := by
  cases layer <;> simp [map]

@[simp] theorem payloads_map (f : α → β) (layer : Layer α) :
    (layer.map f).payloads = layer.payloads.map f := by
  cases layer <;> simp [map, payloads]

@[simp] theorem shape_map (f : α → β) (layer : Layer α) : (layer.map f).shape = layer.shape :=
  map_map (fun _ => ()) f layer

@[simp] theorem strings_map (f : α → β) (layer : Layer α) :
    (layer.map f).strings = layer.strings := by
  cases layer <;> rfl

theorem sameShape_iff {left : Layer α} {right : Layer β} :
    left.sameShape right = true ↔ left.shape = right.shape := by
  simp [sameShape]

private theorem map_unit_eq_map_unit_iff (xs : List α) (ys : List β) :
    (xs.map fun _ => ()) = (ys.map fun _ => ()) ↔ xs.length = ys.length := by
  constructor
  · intro h
    simpa using congrArg List.length h
  · intro h
    simp [List.map_const', h]

/-- Layers of one shape hold equally many payloads. -/
theorem length_payloads_of_shape {left : Layer α} {right : Layer β}
    (h : left.shape = right.shape) : left.payloads.length = right.payloads.length := by
  simpa [shape] using congrArg (fun layer => layer.payloads.length) h

/-- Refilling gives the only layer of the old shape with the given payloads. -/
theorem refill_eq_some_iff {layer : Layer α} {items : List β} {filled : Layer β} :
    layer.refill items = some filled ↔ filled.shape = layer.shape ∧ filled.payloads = items := by
  constructor
  · intro h
    unfold refill at h
    split at h
    case h_2 =>
      rcases List.eq_nil_or_concat items with rfl | ⟨front, last, rfl⟩
      · simp at h
      · rw [List.concat_eq_append] at h ⊢
        split at h
        case isTrue hl =>
          rw [List.getLast?_concat, List.dropLast_concat, Option.map_some] at h
          obtain rfl := Option.some.inj h
          rw [List.length_append, List.length_singleton, Nat.add_right_cancel_iff] at hl
          exact ⟨by rw [shape, shape, map, map, (map_unit_eq_map_unit_iff _ _).2 hl], rfl⟩
        case isFalse => simp at h
    all_goals grind [shape, map, payloads, map_unit_eq_map_unit_iff]
  · rintro ⟨hs, rfl⟩
    have hl := length_payloads_of_shape hs
    cases layer <;> cases filled <;> simp_all [shape, map, payloads, refill]

end Layer

end LayeredTree
