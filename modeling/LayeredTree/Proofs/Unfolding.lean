import LayeredTree.Proofs.Layer.Relation
import LayeredTree.Tree

/-!
# Unfoldings that agree

Two nodes of a view have the same unfolding when the same shape is at the end of every path, which
is also when their layers have one shape and the children in each place have the same unfolding.
A finite unfolding has no path as long as its height, it is the only one, and every node with the
same unfolding has it too.
-/

universe u

namespace LayeredTree

namespace Tree

private theorem foldl_max_le_iff {heights : List Nat} {start bound : Nat} :
    heights.foldl max start ≤ bound ↔ start ≤ bound ∧ ∀ height ∈ heights, height ≤ bound := by
  induction heights generalizing start with
  | nil => simp
  | cons height heights ih =>
    rw [List.foldl_cons, ih, Nat.max_le, List.forall_mem_cons, and_assoc]

/-- A tree is at most one level higher than its children. -/
theorem height_node_le_iff {layer : Layer Tree} {bound : Nat} :
    (node layer).height ≤ bound + 1 ↔ ∀ child ∈ layer.payloads, child.height ≤ bound := by
  have hh : (node layer).height = 1 + (layer.payloads.map height).foldl max 0 := by
    rw [← Layer.payloads_map]
    exact fold_node _ layer
  rw [hh, Nat.add_comm 1, Nat.add_le_add_iff_right, foldl_max_le_iff, List.forall_mem_map]
  exact and_iff_right (Nat.zero_le bound)

/-- Every tree has a root. -/
theorem height_pos (tree : Tree) : 0 < tree.height := by
  obtain ⟨layer⟩ := tree
  rw [height, fold_node]
  exact Nat.le_add_right 1 _

/-- A child is lower than the tree. -/
theorem height_lt_of_mem {layer : Layer Tree} {child : Tree} (h : child ∈ layer.payloads) :
    child.height < (node layer).height := by
  obtain ⟨bound, hb⟩ := Nat.exists_eq_succ_of_ne_zero (Nat.ne_of_gt (height_pos (node layer)))
  have hc := height_node_le_iff.1 (Nat.le_of_eq hb) child h
  omega

/-- What passes on from the children of a node to the node holds of every tree. -/
theorem induction {P : Tree → Prop}
    (node : ∀ layer, (∀ child ∈ layer.payloads, P child) → P (.node layer)) (tree : Tree) :
    P tree := by
  obtain ⟨layer⟩ := tree
  exact node layer fun child hm => induction node child
termination_by tree.height
decreasing_by exact height_lt_of_mem hm

/-- An algebra that tells all layers apart tells all trees apart. -/
theorem fold_injective {α : Type*} {combine : Layer α → α} (h : Function.Injective combine) :
    Function.Injective (fold combine) := by
  intro a b he
  induction b using Tree.induction generalizing a with
  | node right ih =>
    obtain ⟨left⟩ := a
    rw [fold_node, fold_node] at he
    have hmap : left.map id = right.map id :=
      (Layer.map_eq_map_congr fun a b hb => ⟨fun hab => ih b hb hab, congrArg _⟩).1 (h he)
    rw [Layer.map_id, Layer.map_id] at hmap
    rw [hmap]

end Tree

variable {τ : Type u} {view : τ → Layer τ} {left right : τ}

/-- At the end of a longer path is what the child in the first place of the path shows there. -/
theorem shapeAt_cons (view : τ → Layer τ) (node : τ) (position : Nat) (path : List Nat) :
    shapeAt view node (position :: path) =
      (view node).payloads[position]?.bind fun child => shapeAt view child path := by
  rw [shapeAt]
  cases (view node).payloads[position]? <;> rfl

theorem shapeAt_of_child {node child : τ} {position : Nat}
    (h : (view node).payloads[position]? = some child) (path : List Nat) :
    shapeAt view node (position :: path) = shapeAt view child path := by
  rw [shapeAt_cons, h, Option.bind_some]

/-- Two nodes have the same unfolding: variant, strings and sequence lengths agree at the end of
every path. -/
def Agree (view : τ → Layer τ) (left right : τ) : Prop :=
  ∀ path, shapeAt view left path = shapeAt view right path

theorem Agree.refl (view : τ → Layer τ) (node : τ) : Agree view node node := fun _ => rfl

theorem Agree.symm (h : Agree view left right) : Agree view right left := fun path => (h path).symm

/-- Nodes whose layers have one shape show the same at the end of a path when their children in
each place show the same at the end of the rest of the path. -/
theorem shapeAt_cons_congr {R : τ → τ → Prop} (h : Layer.Rel R (view left) (view right))
    {path : List Nat} (hr : ∀ a b, R a b → shapeAt view a path = shapeAt view b path)
    (position : Nat) :
    shapeAt view left (position :: path) = shapeAt view right (position :: path) := by
  cases ha : (view left).payloads[position]? with
  | some a =>
    obtain ⟨b, hb, hab⟩ := h.exists_right ha
    rw [shapeAt_of_child ha, shapeAt_of_child hb]
    exact hr a b hab
  | none =>
    have hb : (view right).payloads[position]? = none := by
      rw [List.getElem?_eq_none_iff] at ha ⊢
      rwa [← h.payloads.length_eq]
    rw [shapeAt_cons, shapeAt_cons, ha, hb]

/-- Nodes have the same unfolding when a relation holds of them that passes on to the children. -/
theorem agree_of_bisimulation {R : τ → τ → Prop}
    (hp : ∀ a b, R a b → Layer.Rel R (view a) (view b)) (h : R left right) :
    Agree view left right := by
  intro path
  induction path generalizing left right with
  | nil => exact congrArg some (hp _ _ h).shape_eq
  | cons position path ih => exact shapeAt_cons_congr (hp _ _ h) (fun _ _ hab => ih hab) position

/-- Nodes have the same unfolding when their layers have one shape and the children in each place
have the same unfolding. -/
theorem agree_iff : Agree view left right ↔ Layer.Rel (Agree view) (view left) (view right) := by
  constructor
  · intro h
    refine .of_getElem? (Option.some.inj (h [])) fun position a b ha hb path => ?_
    rw [← shapeAt_of_child ha, ← shapeAt_of_child hb]
    exact h (position :: path)
  · intro h path
    cases path with
    | nil => exact congrArg some h.shape_eq
    | cons position path => exact shapeAt_cons_congr h (fun _ _ hab => hab path) position

/-- The unfoldings of two nodes agree along a path and differ at its end. -/
structure PartAt (view : τ → Layer τ) (left right : τ) (path : List Nat) : Prop where
  /-- The unfoldings agree before the end of the path. -/
  agree : ∀ front, front <+: path → front ≠ path →
    shapeAt view left front = shapeAt view right front
  /-- Both unfoldings have a layer at the end of the path, and these differ in shape. -/
  part : ∃ shape other, shapeAt view left path = some shape ∧
    shapeAt view right path = some other ∧ shape ≠ other

/-- Unfoldings that differ somewhere do not agree. -/
theorem PartAt.not_agree {path : List Nat} (h : PartAt view left right path) :
    ¬Agree view left right := by
  intro ha
  obtain ⟨shape, other, hl, hr, hn⟩ := h.part
  have hp := ha path
  rw [hl, hr] at hp
  exact hn (Option.some.inj hp)

/-- Layers of different shapes differ at the root. -/
theorem partAt_nil (h : (view left).shape ≠ (view right).shape) : PartAt view left right [] where
  agree _ hp hn := absurd (List.prefix_nil.1 hp) hn
  part := ⟨_, _, rfl, rfl, h⟩

/-- Where children in one place differ, so do nodes whose layers have one shape. -/
theorem PartAt.cons (hs : (view left).shape = (view right).shape) {position : Nat} {a b : τ}
    (ha : (view left).payloads[position]? = some a)
    (hb : (view right).payloads[position]? = some b) {path : List Nat}
    (h : PartAt view a b path) : PartAt view left right (position :: path) where
  agree front hp hn := by
    cases front with
    | nil => exact congrArg some hs
    | cons other front =>
      obtain ⟨rfl, hpf⟩ := List.cons_prefix_cons.1 hp
      rw [shapeAt_of_child ha, shapeAt_of_child hb]
      exact h.agree front hpf fun he => hn (congrArg _ he)
  part := by
    rw [shapeAt_of_child ha, shapeAt_of_child hb]
    exact h.part

/-- A node unfolds to a tree when its layer and the layer of the tree have one shape and the
children unfold to the children of the tree. -/
theorem unfolds_node_iff {node : τ} {layer : Layer Tree} :
    Unfolds view node (.node layer) ↔ Layer.Rel (Unfolds view) (view node) layer := by
  constructor
  · rintro ⟨same_shape, children⟩
    exact .of_getElem? same_shape.symm children
  · intro h
    refine .node h.shape_eq.symm fun position child tree hc ht => ?_
    obtain ⟨other, ho, hu⟩ := h.exists_right hc
    rw [ht] at ho
    obtain rfl := Option.some.inj ho
    exact hu

/-- Paths in a finite unfolding are shorter than its height. -/
theorem Unfolds.length_lt_height {node : τ} {tree : Tree} (h : Unfolds view node tree)
    {path : List Nat} {shape : Layer Unit} (hp : shapeAt view node path = some shape) :
    path.length < tree.height := by
  induction path generalizing node tree with
  | nil => exact tree.height_pos
  | cons position path ih =>
    obtain ⟨layer⟩ := tree
    rw [shapeAt_cons, Option.bind_eq_some_iff] at hp
    obtain ⟨child, hc, hp⟩ := hp
    obtain ⟨lower, hl, hu⟩ := (unfolds_node_iff.1 h).exists_right hc
    have hlt := Tree.height_lt_of_mem (List.mem_of_getElem? hl)
    have hle := ih hu hp
    rw [List.length_cons]
    omega

/-- Nodes with the same unfolding unfold to the same finite tree. -/
theorem Unfolds.of_agree {tree : Tree} (h : Unfolds view left tree) (ha : Agree view left right) :
    Unfolds view right tree := by
  induction h generalizing right with
  | node same_shape children ih =>
    have hr := agree_iff.1 ha
    refine .node (same_shape.trans hr.shape_eq) fun position child tree hc ht => ?_
    obtain ⟨other, ho, hoc⟩ := hr.exists_left hc
    exact ih position other tree ho ht hoc

/-- A node unfolds to at most one finite tree. -/
theorem Unfolds.unique {node : τ} {tree other : Tree} (h : Unfolds view node tree)
    (ho : Unfolds view node other) : tree = other := by
  induction h generalizing other with
  | @node node layer same_shape children ih =>
    obtain ⟨others⟩ := other
    have hr := unfolds_node_iff.1 ho
    congr 1
    refine Layer.rel_eq_iff.1 (.of_getElem? (same_shape.trans hr.shape_eq) ?_)
    intro position lower otherLower hl hol
    obtain ⟨child, hc, hu⟩ := hr.exists_left hol
    exact ih position child lower hc hl hu

/-- Nodes with one finite unfolding have the same unfolding. -/
theorem agree_of_unfolds {tree : Tree} (hl : Unfolds view left tree)
    (hr : Unfolds view right tree) : Agree view left right := by
  refine agree_of_bisimulation (R := fun a b => ∃ tree, Unfolds view a tree ∧ Unfolds view b tree)
    ?_ ⟨tree, hl, hr⟩
  rintro a b ⟨⟨layer⟩, ha, hb⟩
  have hal := (unfolds_node_iff.1 ha).flip
  have hbl := (unfolds_node_iff.1 hb).flip
  exact hal.of_common hbl

/-- Two finite unfoldings are the same tree exactly when the nodes have the same unfolding. -/
theorem Unfolds.eq_iff_agree {tree other : Tree} (hl : Unfolds view left tree)
    (hr : Unfolds view right other) : tree = other ↔ Agree view left right := by
  constructor
  · rintro rfl
    exact agree_of_unfolds hl hr
  · intro ha
    exact (hl.of_agree ha).unique hr

end LayeredTree
