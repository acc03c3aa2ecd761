import LayeredTree.Agenda
import LayeredTree.Forest
import Std.Data.HashSet

/-!
# Folding with an explicit stack

A fold collapses a tree bottom-up: an algebra combines a layer whose payloads are the results of
the children into the result of the node. The stack holds the nodes on the path from the root to
the node in work, each with the children that are still to fold and the results so far. One step
either folds on into the next child, after the cycle guard and the depth guard have let it pass,
or collapses the top frame and hands its result down. Every step makes the agenda of the stack
smaller, so the loop ends for every forest.
-/

namespace LayeredTree

/-- An algebra on layers whose payloads are results. It may use the state and may fail. -/
abbrev Algebra (ε σ α : Type) := Layer α → EStateM ε σ α

/-- An algebra without effects. -/
@[inline]
def Algebra.ofPure {ε σ α : Type} (combine : Layer α → α) : Algebra ε σ α :=
  fun layer => pure (combine layer)

namespace Fold

variable {ε σ α ν : Type}

/-- A node whose children are being folded. -/
structure Frame (ν α : Type) where
  /-- The node itself. -/
  node : ν
  /-- Its layer, revealed when the node was entered. -/
  layer : Layer ν
  /-- The children that are still to fold. -/
  pending : List ν
  /-- The results of the children folded so far, the latest first. -/
  results : List α

/-- The frame of a node that has just been entered. -/
def Frame.enter (node : ν) (layer : Layer ν) : Frame ν α := ⟨node, layer, layer.payloads, []⟩

/-- The state of the loop: the frames on the path to the node in work. -/
structure Stack (ν α : Type) [BEq ν] [Hashable ν] where
  /-- The node in work. -/
  top : Frame ν α
  /-- Its ancestors, the nearest first. -/
  below : List (Frame ν α)
  /-- The number of frames. -/
  depth : Nat
  /-- The nodes of all frames, kept only while cycles are detected. -/
  ancestors : Std.HashSet ν

/-- What a step leads to. -/
inductive Progress (ν α : Type) [BEq ν] [Hashable ν] where
  | running (stack : Stack ν α)
  | finished (value : α)

variable [BEq ν] [Hashable ν]

/-- The stack that holds the root alone. -/
def Stack.root (settings : Settings) (node : ν) (layer : Layer ν) : Stack ν α where
  top := .enter node layer
  below := []
  depth := 1
  ancestors := if settings.detectCycles then Std.HashSet.emptyWithCapacity.insert node
    else Std.HashSet.emptyWithCapacity

/-- Go down into a child. -/
def Stack.push (settings : Settings) (stack : Stack ν α) (pending : List ν) (child : ν)
    (layer : Layer ν) : Stack ν α where
  top := .enter child layer
  below := { stack.top with pending } :: stack.below
  depth := stack.depth + 1
  ancestors := if settings.detectCycles then stack.ancestors.insert child else stack.ancestors

/-- Hand the result of the top frame to the frame below it. -/
def Stack.pop (settings : Settings) (stack : Stack ν α) (parent : Frame ν α)
    (below : List (Frame ν α)) (value : α) : Stack ν α where
  top := { parent with results := value :: parent.results }
  below := below
  depth := stack.depth - 1
  ancestors := if settings.detectCycles then stack.ancestors.erase stack.top.node
    else stack.ancestors

/-- Combine the results of a frame whose children are all folded. -/
def collapse (algebra : Algebra ε σ α) (frame : Frame ν α) : Walk ε σ α :=
  match frame.layer.refill frame.results.reverse with
  | some layer => Forest.lift (algebra layer)
  | none => throw .starved

/-- One step of the loop. -/
def step (forest : Forest ε σ ν) (settings : Settings) (algebra : Algebra ε σ α)
    (stack : Stack ν α) : Walk ε σ (Progress ν α) :=
  match stack.top.pending with
  | child :: pending =>
    if settings.detectCycles && stack.ancestors.contains child then
      forest.stop (.cycleDetected stack.depth) (.cyclic stack.depth)
    else if settings.maxDepth ≤ stack.depth then
      forest.stop (.foldLimitReached settings.maxDepth) (.tooDeep settings.maxDepth)
    else do
      let layer ← forest.reveal child
      return .running (stack.push settings pending child layer)
  | [] => do
    let value ← collapse algebra stack.top
    match stack.below with
    | parent :: below => return .running (stack.pop settings parent below value)
    | [] => return .finished value

/-- The tasks that a frame at a given depth stands for: its children, and the frame itself. -/
def Frame.ranks (limit depth : Nat) (frame : Frame ν α) : List Nat :=
  List.replicate frame.pending.length (limit - depth) ++ [0]

/-- The tasks of the frames below a frame, the nearest of which is at the given depth. -/
def ranksBelow (limit : Nat) : Nat → List (Frame ν α) → List Nat
  | _, [] => []
  | depth, frame :: below => frame.ranks limit depth ++ ranksBelow limit (depth - 1) below

/-- The tasks of a stack. A child ranks above all that its own subtree can put in its place. -/
def Stack.agenda (settings : Settings) (stack : Stack ν α) : Agenda :=
  ⟨stack.top.ranks settings.maxDepth stack.depth ++
    ranksBelow settings.maxDepth (stack.depth - 1) stack.below⟩

/-- Every step makes the agenda smaller. -/
theorem step_shrinks {forest : Forest ε σ ν} {settings : Settings} {algebra : Algebra ε σ α}
    {stack next : Stack ν α} {before after : σ}
    (h : step forest settings algebra stack before = .ok (.running next) after) :
    Agenda.Shrinks (next.agenda settings) (stack.agenda settings) := by
  cases hp : stack.top.pending with
  | cons child pending =>
    simp only [step, hp] at h
    split at h
    · cases h
    split at h
    · cases h
    next hd =>
    simp only [bind, EStateM.bind, pure, EStateM.pure] at h
    split at h <;> cases h
    next layer _ =>
    refine ⟨settings.maxDepth - stack.depth,
      List.replicate pending.length (settings.maxDepth - stack.depth) ++ 0 ::
        ranksBelow settings.maxDepth (stack.depth - 1) stack.below,
      (Frame.enter (α := α) child layer).ranks settings.maxDepth (stack.depth + 1), ?_, ?_, ?_⟩
    · simp [Stack.agenda, Frame.ranks, hp, List.replicate_succ]
    · simp [Stack.agenda, Frame.ranks, Stack.push, ranksBelow]
    · simp only [Frame.ranks, List.mem_append, List.mem_replicate, List.mem_singleton]
      omega
  | nil =>
    simp only [step, hp, bind, EStateM.bind, pure] at h
    split at h
    · cases hb : stack.below with
      | nil =>
        simp only [hb] at h
        cases h
      | cons parent below =>
        simp only [hb] at h
        cases h
        refine ⟨0, ranksBelow settings.maxDepth (stack.depth - 1) stack.below, [], ?_, ?_,
          by simp⟩
        · simp [Stack.agenda, Frame.ranks, hp]
        · simp [Stack.agenda, Frame.ranks, Stack.pop, ranksBelow, hb]
    · cases h

/-- Take steps until the root collapses or something stops the walk. -/
def run (forest : Forest ε σ ν) (settings : Settings) (algebra : Algebra ε σ α)
    (stack : Stack ν α) (state : σ) : EStateM.Result (Interruption ε) σ α :=
  match _h : step forest settings algebra stack state with
  | .ok (.running next) state => run forest settings algebra next state
  | .ok (.finished value) state => .ok value state
  | .error reason state => .error reason state
termination_by stack.agenda settings
decreasing_by exact step_shrinks _h

end Fold

/-- Fold a node: its layer is revealed first, without a guard, and then the loop runs. -/
def Forest.fold {ε σ α ν : Type} [BEq ν] [Hashable ν] (forest : Forest ε σ ν)
    (settings : Settings) (algebra : Algebra ε σ α) (root : ν) : Walk ε σ α := do
  let layer ← forest.reveal root
  Fold.run forest settings algebra (.root settings root layer)

end LayeredTree
