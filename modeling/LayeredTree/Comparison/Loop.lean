import LayeredTree.Agenda
import LayeredTree.Forest

/-!
# Comparing trees in lockstep

Two trees are compared layer by layer. One step takes the first pending pair: identical nodes are
passed over, a pair below the depth bound stops the walk, and otherwise both layers are revealed,
the left one first. Layers of different shapes settle the answer at once; layers of one shape put
the pairs of their children in front of the other pending pairs.
-/

namespace LayeredTree

namespace Comparison

variable {ε σ ν : Type}

/-- Two nodes in the same place of two trees, and the number of nodes down to there. -/
structure Pair (ν : Type) where
  left : ν
  right : ν
  depth : Nat

/-- What a step leads to. -/
inductive Progress (ν : Type) where
  | running (pending : List (Pair ν))
  | finished (equal : Bool)

/-- The pairs of the children of two layers, in declared order. -/
def children (depth : Nat) (left right : Layer ν) : List (Pair ν) :=
  List.zipWith (fun l r => ⟨l, r, depth⟩) left.payloads right.payloads

private theorem depth_of_mem_zipWith {depth : Nat} {lefts rights : List ν} {pair : Pair ν}
    (h : pair ∈ List.zipWith (fun l r => Pair.mk l r depth) lefts rights) :
    pair.depth = depth := by
  induction lefts generalizing rights with
  | nil => simp at h
  | cons l lefts ih =>
    cases rights with
    | nil => simp at h
    | cons r rights =>
      rcases List.mem_cons.1 h with rfl | h
      · rfl
      · exact ih h

/-- The pairs of children all lie at the given depth. -/
theorem depth_of_mem_children {depth : Nat} {left right : Layer ν} {pair : Pair ν}
    (h : pair ∈ children depth left right) : pair.depth = depth :=
  depth_of_mem_zipWith h

variable [BEq ν]

/-- One step of the loop. -/
def step (forest : Forest ε σ ν) (settings : Settings) :
    List (Pair ν) → Walk ε σ (Progress ν)
  | [] => return .finished true
  | pair :: pending =>
    if pair.left == pair.right then return .running pending
    else if settings.maxDepth < pair.depth then
      forest.stop (.comparisonLimitReached settings.maxDepth) (.tooDeep settings.maxDepth)
    else do
      let left ← forest.reveal pair.left
      let right ← forest.reveal pair.right
      if left.sameShape right then
        return .running (children (pair.depth + 1) left right ++ pending)
      else return .finished false

/-- The tasks of the pending pairs. A pair ranks above all pairs of its children. -/
def agenda (settings : Settings) (pending : List (Pair ν)) : Agenda :=
  ⟨pending.map fun pair => settings.maxDepth + 1 - pair.depth⟩

/-- Every step makes the agenda smaller. -/
theorem step_shrinks {forest : Forest ε σ ν} {settings : Settings} {pending next : List (Pair ν)}
    {before after : σ} (h : step forest settings pending before = .ok (.running next) after) :
    Agenda.Shrinks (agenda settings next) (agenda settings pending) := by
  cases pending with
  | nil => cases h
  | cons pair pending =>
    simp only [step] at h
    split at h
    · cases h
      exact ⟨_, _, [], rfl, rfl, by simp⟩
    split at h
    · cases h
    next hd =>
    simp only [bind, EStateM.bind, pure] at h
    split at h
    · split at h
      · split at h <;> cases h
        refine ⟨_, _, _, rfl, List.map_append, ?_⟩
        intro rank hr
        obtain ⟨child, hc, rfl⟩ := List.mem_map.1 hr
        have hcd := depth_of_mem_children hc
        show settings.maxDepth + 1 - child.depth < settings.maxDepth + 1 - pair.depth
        omega
      · cases h
    · cases h

/-- Take steps until the answer is settled or something stops the walk. -/
def run (forest : Forest ε σ ν) (settings : Settings) (pending : List (Pair ν)) (state : σ) :
    EStateM.Result (Interruption ε) σ Bool :=
  match _h : step forest settings pending state with
  | .ok (.running next) state => run forest settings next state
  | .ok (.finished equal) state => .ok equal state
  | .error reason state => .error reason state
termination_by agenda settings pending
decreasing_by exact step_shrinks _h

end Comparison

/-- Compare the trees below two nodes. -/
def Forest.equal {ε σ ν : Type} [BEq ν] (forest : Forest ε σ ν) (settings : Settings)
    (left right : ν) : Walk ε σ Bool :=
  Comparison.run forest settings [⟨left, right, 1⟩]

end LayeredTree
