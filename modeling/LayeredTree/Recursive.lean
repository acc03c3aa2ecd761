import LayeredTree.Comparison.Loop
import LayeredTree.Fold.Loop

/-!
# Walks by recursion

The direct definitions of the guarded fold and the guarded comparison, by recursion on the number of
levels that the depth bound still allows. The fold visits the same nodes as the loop on the explicit
stack and keeps the path to the node in work as a plain list.
-/

namespace LayeredTree

namespace Fold

variable {ε σ α ν : Type} [BEq ν]

/-- Fold a node below its ancestors, the nearest first, with so many levels left within the bound:
the children in declared order, each after the cycle guard has let it pass, then the layer. -/
def descend (forest : Forest ε σ ν) (settings : Settings) (algebra : Algebra ε σ α) :
    Nat → List ν → ν → Walk ε σ α
  | 0, _, _ => forest.stop (.foldLimitReached settings.maxDepth) (.tooDeep settings.maxDepth)
  | levels + 1, path, node => do
    let layer ← forest.reveal node
    let results ← layer.traverse fun child =>
      if settings.detectCycles && (node :: path).contains child then
        forest.stop (.cycleDetected (path.length + 1)) (.cyclic (path.length + 1))
      else descend forest settings algebra levels (node :: path) child
    Forest.lift (algebra results)

end Fold

/-- Fold a node by recursion. The bound is positive, so the root passes it. -/
def Forest.foldRecursively {ε σ α ν : Type} [BEq ν] (forest : Forest ε σ ν)
    (settings : Settings) (algebra : Algebra ε σ α) (root : ν) : Walk ε σ α :=
  Fold.descend forest settings algebra settings.maxDepth [] root

namespace Comparison

variable {ε σ ν : Type} [BEq ν]

/-- Compare two nodes with so many levels left within the bound: identical nodes are equal unseen,
and others when their layers have one shape and no two children differ. -/
def descend (forest : Forest ε σ ν) (settings : Settings) : Nat → ν → ν → Walk ε σ Bool
  | 0, left, right =>
    if left == right then return true
    else forest.stop (.comparisonLimitReached settings.maxDepth) (.tooDeep settings.maxDepth)
  | levels + 1, left, right => do
    if left == right then return true
    let leftLayer ← forest.reveal left
    let rightLayer ← forest.reveal right
    if leftLayer.sameShape rightLayer then
      (leftLayer.payloads.zip rightLayer.payloads).allM fun (l, r) =>
        descend forest settings levels l r
    else return false

end Comparison

end LayeredTree
