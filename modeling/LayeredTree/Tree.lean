import LayeredTree.Forest

/-!
# Finite trees and unfoldings

A finite tree is a layer of finite trees, and a fold of one needs neither guards nor a stack.

A view tells for every node of a forest which layer it shows, and so it determines the tree below
every node. That tree may be endless; what can be seen of it is the shape at the end of each finite
path of child positions. A node whose tree ends on all paths unfolds to a finite tree, however the
nodes below it are shared.
-/

universe u

namespace LayeredTree

/-- A layer whose payloads are finite trees again. -/
inductive Tree where
  | node (layer : Layer Tree)

namespace Tree

/-- The layer at the root. -/
def layer : Tree → Layer Tree
  | node layer => layer

variable {α : Type u}

mutual

/-- Collapse a tree bottom-up: the algebra combines the results of the children. -/
def fold (combine : Layer α → α) : Tree → α
  | node (.apply callee arguments) =>
    combine (.apply (fold combine callee) (foldAll combine arguments))
  | node (.abstract parameters body) =>
    combine (.abstract (foldAll combine parameters) (fold combine body))
  | node (.assign name value) => combine (.assign name (fold combine value))
  | node (.var name) => combine (.var name)
  | node (.literal value) => combine (.literal value)
  | node (.group label members) =>
    combine (.group (fold combine label) (foldAll combine members))

/-- Collapse the trees of a list. -/
def foldAll (combine : Layer α → α) : List Tree → List α
  | [] => []
  | tree :: trees => fold combine tree :: foldAll combine trees

end

theorem foldAll_eq_map (combine : Layer α → α) (trees : List Tree) :
    foldAll combine trees = trees.map (fold combine) := by
  induction trees with
  | nil => rfl
  | cons tree trees ih => rw [foldAll, ih, List.map_cons]

/-- A fold combines the folded children. -/
theorem fold_node (combine : Layer α → α) (layer : Layer Tree) :
    fold combine (node layer) = combine (layer.map (fold combine)) := by
  cases layer <;> simp [fold, foldAll_eq_map, Layer.map]

/-- The number of nodes on the longest path from the root. -/
def height (tree : Tree) : Nat :=
  tree.fold fun layer => 1 + layer.payloads.foldl max 0

end Tree

/-! ## Unfoldings -/

/-- Revealing a layer has no effect and always gives the layer of the view. -/
def Forest.Shows {ε σ ν : Type} (forest : Forest ε σ ν) (view : ν → Layer ν) : Prop :=
  ∀ node state, forest.produce node state = .ok (view node) state

/-- The shape of the layer at the end of a path of child positions, if the path stays within the
tree. -/
def shapeAt {ν : Type u} (view : ν → Layer ν) : ν → List Nat → Option (Layer Unit)
  | node, [] => some (view node).shape
  | node, position :: path =>
    match (view node).payloads[position]? with
    | some child => shapeAt view child path
    | none => none

/-- A node unfolds to the finite tree that has the layer shown by the node at its root, with the
unfoldings of the node's children in place of the children. -/
inductive Unfolds {ν : Type u} (view : ν → Layer ν) : ν → Tree → Prop where
  | node {node : ν} {layer : Layer Tree} (same_shape : layer.shape = (view node).shape)
      (children : ∀ (position : Nat) (child : ν) (tree : Tree),
        (view node).payloads[position]? = some child →
        layer.payloads[position]? = some tree → Unfolds view child tree) :
      Unfolds view node (.node layer)

end LayeredTree
