import LayeredTree.Proofs.Alike
import LayeredTree.Proofs.Fold.Refinement

/-!
# Stacks that go alike

Where two forests are alike down to the depth limit, folds of related nodes go alike. The stacks of
the two loops then have frames of related nodes, in the same numbers, and agree about which nodes
are ancestors; every step keeps this up. A step asks a child for its layer only when the child is
within the limit, so nothing need be known of the nodes further down.
-/

namespace LayeredTree.Fold

variable {ε σ τ ν μ α β : Type}

section Relations

variable (N : Nat → ν → μ → Prop) (R : α → β → Prop)

/-- Frames of related nodes at one depth, with related children one level further down and related
results. -/
structure Frame.Alike (depth : Nat) (left : Frame ν α) (right : Frame μ β) : Prop where
  /-- The nodes are related. -/
  node : N depth left.node right.node
  /-- The layers have related payloads. -/
  layer : Layer.Rel (N (depth + 1)) left.layer right.layer
  /-- The children that are still to fold are related. -/
  pending : List.Forall₂ (N (depth + 1)) left.pending right.pending
  /-- The results are related. -/
  results : List.Forall₂ R left.results right.results

/-- As many frames as the depth says, alike at their depths, the deepest first. -/
inductive FramesAlike : Nat → List (Frame ν α) → List (Frame μ β) → Prop
  | nil : FramesAlike 0 [] []
  | cons {depth : Nat} {left : Frame ν α} {right : Frame μ β} {below : List (Frame ν α)}
      {below' : List (Frame μ β)} (top : Frame.Alike N R (depth + 1) left right)
      (rest : FramesAlike depth below below') :
      FramesAlike (depth + 1) (left :: below) (right :: below')

variable [BEq ν] [Hashable ν] [BEq μ] [Hashable μ]

/-- Stacks of alike frames that agree about which nodes are ancestors. -/
structure Stack.Alike (left : Stack ν α) (right : Stack μ β) : Prop where
  /-- The frames are alike. -/
  frames : FramesAlike N R left.depth (left.top :: left.below) (right.top :: right.below)
  /-- The depths are the same. -/
  depth_eq : right.depth = left.depth
  /-- Related nodes are ancestors in both stacks or in none. -/
  ancestors {depth : Nat} {node : ν} {other : μ} (related : N depth node other) :
    left.ancestors.contains node = right.ancestors.contains other

/-- Alike stacks, or related results. -/
inductive Progress.Alike : Progress ν α → Progress μ β → Prop
  | running {left : Stack ν α} {right : Stack μ β} (alike : Stack.Alike N R left right) :
      Progress.Alike (.running left) (.running right)
  | finished {value : α} {other : β} (values : R value other) :
      Progress.Alike (.finished value) (.finished other)

end Relations

variable {N : Nat → ν → μ → Prop} {R : α → β → Prop}

/-- A frame that has just been entered is like another one of a related node. -/
theorem Frame.Alike.enter {depth : Nat} {node : ν} {other : μ} {layer : Layer ν}
    {layer' : Layer μ} (hn : N depth node other) (hl : Layer.Rel (N (depth + 1)) layer layer') :
    Frame.Alike N R depth (.enter node layer) (.enter other layer') :=
  ⟨hn, hl, hl.payloads, .nil⟩

/-- Frames of alike layers with related results are combined alike. -/
theorem alike_collapse {T : σ → τ → Prop} {f : Algebra ε σ α} {g : Algebra ε τ β}
    (ha : f.Alike T R g) {depth : Nat} {left : Frame ν α} {right : Frame μ β}
    (hf : Frame.Alike N R depth left right) :
    Walk.Alike T R (collapse f left) (collapse g right) := by
  have hr := Layer.rel_refill hf.layer.shape_eq (List.forall₂_reverse_iff.2 hf.results)
  unfold collapse
  generalize left.layer.refill left.results.reverse = filled,
    right.layer.refill right.results.reverse = filled' at hr
  cases hr with
  | some hl => exact (ha _ _ hl).lift
  | none => exact fun _ _ states => .error Interruption.starved states

variable [BEq ν] [Hashable ν] [BEq μ] [Hashable μ] {T : σ → τ → Prop} {left : Forest ε σ ν}
  {right : Forest ε τ μ} {settings : Settings} {f : Algebra ε σ α} {g : Algebra ε τ β}
  [EquivBEq ν] [LawfulHashable ν] [EquivBEq μ] [LawfulHashable μ]

/-- The stacks of related roots are alike. -/
theorem Stack.Alike.root (hf : left.AlikeWithin settings.maxDepth T N right) {node : ν} {other : μ}
    (hn : N 1 node other) {layer : Layer ν} {layer' : Layer μ}
    (hl : Layer.Rel (N 2) layer layer') :
    Stack.Alike N R (.root settings node layer) (.root settings other layer') where
  frames := .cons (.enter hn hl) .nil
  depth_eq := rfl
  ancestors related := by
    unfold Stack.root
    split
    · rw [Std.HashSet.contains_insert, Std.HashSet.contains_insert,
        Std.HashSet.contains_emptyWithCapacity, Std.HashSet.contains_emptyWithCapacity,
        hf.identity hn related]
    · rw [Std.HashSet.contains_emptyWithCapacity, Std.HashSet.contains_emptyWithCapacity]

/-- Going down into related children keeps stacks alike. -/
theorem Stack.Alike.push (hf : left.AlikeWithin settings.maxDepth T N right) {stack : Stack ν α}
    {stack' : Stack μ β} (hs : Stack.Alike N R stack stack') {pending : List ν}
    {pending' : List μ} (hp : List.Forall₂ (N (stack.depth + 1)) pending pending') {child : ν}
    {child' : μ} (hc : N (stack.depth + 1) child child') {layer : Layer ν} {layer' : Layer μ}
    (hl : Layer.Rel (N (stack.depth + 2)) layer layer') :
    Stack.Alike N R (stack.push settings pending child layer)
      (stack'.push settings pending' child' layer') where
  frames := by
    have hframes := hs.frames
    show FramesAlike N R (stack.depth + 1) _ _
    generalize stack.depth = depth at hframes hp hc hl
    cases hframes with
    | cons top rest => exact .cons (.enter hc hl) (.cons { top with pending := hp } rest)
  depth_eq := congrArg (· + 1) hs.depth_eq
  ancestors related := by
    unfold Stack.push
    split
    · rw [Std.HashSet.contains_insert, Std.HashSet.contains_insert, hf.identity hc related,
        hs.ancestors related]
    · exact hs.ancestors related

/-- Handing related results down keeps stacks alike. -/
theorem Stack.Alike.pop (hf : left.AlikeWithin settings.maxDepth T N right) {stack : Stack ν α}
    {stack' : Stack μ β} (hs : Stack.Alike N R stack stack') {parent : Frame ν α}
    {parent' : Frame μ β} {below : List (Frame ν α)} {below' : List (Frame μ β)}
    (hb : stack.below = parent :: below) (hb' : stack'.below = parent' :: below') {value : α}
    {value' : β} (hv : R value value') :
    Stack.Alike N R (stack.pop settings parent below value)
      (stack'.pop settings parent' below' value') where
  frames := by
    have hframes := hs.frames
    rw [hb, hb'] at hframes
    show FramesAlike N R (stack.depth - 1) _ _
    generalize stack.depth = depth at hframes
    cases hframes with
    | cons top rest =>
      cases rest with
      | cons next rest => exact .cons { next with results := .cons hv next.results } rest
  depth_eq := congrArg (· - 1) hs.depth_eq
  ancestors related := by
    have hframes := hs.frames
    unfold Stack.pop
    split
    · rw [Std.HashSet.contains_erase, Std.HashSet.contains_erase, hs.ancestors related]
      generalize stack.depth = depth at hframes
      cases hframes with
      | cons top rest => rw [hf.identity top.node related]
    · exact hs.ancestors related

/-- Steps from alike stacks go alike. -/
theorem alike_step (hf : left.AlikeWithin settings.maxDepth T N right) (ha : f.Alike T R g)
    {stack : Stack ν α} {stack' : Stack μ β} (hs : Stack.Alike N R stack stack') :
    Walk.Alike T (Progress.Alike N R) (step left settings f stack)
      (step right settings g stack') := by
  have htop : Frame.Alike N R stack.depth stack.top stack'.top := by
    have hframes := hs.frames
    generalize stack.depth = depth at hframes ⊢
    cases hframes with
    | cons top rest => exact top
  have hpending := htop.pending
  rw [step, step, hs.depth_eq]
  generalize hp : stack.top.pending = pending, hp' : stack'.top.pending = pending' at hpending
  cases hpending with
  | cons hc hrest =>
    dsimp only
    rw [hs.ancestors hc]
    split
    · exact fun _ _ states => .error _ (hf.report _ states)
    split
    · exact fun _ _ states => .error _ (hf.report _ states)
    next hd =>
    -- the child lies within the limit, so both forests reveal its layer alike
    refine (hf.produce (Nat.lt_of_not_le hd) hc).lift.bind fun layer layer' hl => ?_
    exact Walk.alike_pure (.running (hs.push hf hrest hc hl))
  | nil =>
    refine (alike_collapse ha htop).bind fun value value' hv => ?_
    have hframes := hs.frames
    generalize hb : stack.below = below, hb' : stack'.below = below' at hframes
    generalize stack.depth = depth at hframes
    cases hframes with
    | cons top rest =>
      cases rest with
      | nil => exact Walk.alike_pure (.finished hv)
      | cons next rest => exact Walk.alike_pure (.running (hs.pop hf hb hb' hv))

/-- Loops that start from alike stacks go alike. -/
theorem alike_run (hf : left.AlikeWithin settings.maxDepth T N right) (ha : f.Alike T R g)
    {stack : Stack ν α} {stack' : Stack μ β} (hs : Stack.Alike N R stack stack') :
    Walk.Alike T R (run left settings f stack) (run right settings g stack') := by
  intro state state' states
  induction stack, state using run.induct left settings f generalizing stack' state' with
  | case1 stack state next after h ih =>
    have hstep := alike_step hf ha hs state state' states
    rw [h] at hstep
    obtain ⟨progress, after', hr, hp, states'⟩ := hstep.exists_ok
    rw [run_eq_step_bind, run_eq_step_bind, Walk.bind_of_ok h, Walk.bind_of_ok hr]
    cases hp with
    | running alike => exact ih alike after' states'
  | case2 stack state value after h =>
    have hstep := alike_step hf ha hs state state' states
    rw [h] at hstep
    obtain ⟨progress, after', hr, hp, states'⟩ := hstep.exists_ok
    rw [run_eq_step_bind, run_eq_step_bind, Walk.bind_of_ok h, Walk.bind_of_ok hr]
    cases hp with
    | finished values => exact .ok values states'
  | case3 stack state reason after h =>
    have hstep := alike_step hf ha hs state state' states
    rw [h] at hstep
    obtain ⟨after', hr, states'⟩ := hstep.exists_error
    rw [run_eq_step_bind, run_eq_step_bind, Walk.bind_of_error h, Walk.bind_of_error hr]
    exact .error reason states'

/-- Folds of related roots go alike. -/
theorem alike_fold_within (hf : left.AlikeWithin settings.maxDepth T N right)
    (ha : f.Alike T R g) {node : ν} {other : μ} (hn : N 1 node other) :
    Walk.Alike T R (left.fold settings f node) (right.fold settings g other) := by
  refine (hf.produce settings.maxDepth_pos hn).lift.bind fun layer layer' hl => ?_
  exact alike_run hf ha (.root hf hn hl)

end LayeredTree.Fold
