import LayeredTree.Proofs.Purity

/-!
# Routes through a pure forest

A route goes down from a node: the node is revealed at some time, the node in one position of its
layer comes next, and so on. Nodes need not give the same nodes each time, so there may be many
routes along the same positions; all of them pass through nodes that stand for the subtrees at these
positions. A node that comes again below itself stands for a tree without end, so the routes below a
node that stands for a finite tree do not visit any node twice.
-/

universe u

namespace LayeredTree

variable {ε σ ν : Type} {τ : Type u}

/-! ## Subtrees -/

/-- The tree at the end of a path of child positions, if the path stays within the tree. -/
def subtreeAt (view : τ → Layer τ) : τ → List Nat → Option τ
  | tree, [] => some tree
  | tree, position :: positions =>
    (view tree).payloads[position]?.bind fun child => subtreeAt view child positions

/-- A tree is finite when it unfolds to a finite tree. -/
def IsFinite (view : τ → Layer τ) (tree : τ) : Prop := ∃ finite, Unfolds view tree finite

section Subtrees

variable {view : τ → Layer τ} {tree : τ}

/-- A subtree below the root is a subtree of a child. -/
theorem subtreeAt_cons_eq_some_iff {position : Nat} {positions : List Nat} {sub : τ} :
    subtreeAt view tree (position :: positions) = some sub ↔
      ∃ child, (view tree).payloads[position]? = some child ∧
        subtreeAt view child positions = some sub := by
  rw [subtreeAt, Option.bind_eq_some_iff]

/-- A path that goes on from a subtree is a path within the subtree. -/
theorem subtreeAt_append (view : τ → Layer τ) (tree : τ) (upper lower : List Nat) :
    subtreeAt view tree (upper ++ lower) =
      (subtreeAt view tree upper).bind fun sub => subtreeAt view sub lower := by
  induction upper generalizing tree with
  | nil => rfl
  | cons position upper ih =>
    rw [List.cons_append, subtreeAt, subtreeAt, Option.bind_assoc]
    exact Option.bind_congr fun child _ => ih child

/-- Where all children are finite, so is the tree. -/
theorem isFinite_of_children {β : Type} {values : Layer β}
    (h : Layer.Rel (fun child _ => IsFinite view child) (view tree) values) :
    IsFinite view tree := by
  have hw : Layer.Rel (fun child _ => ∃ finite, Unfolds view child finite ∧ True) (view tree)
      values := h.imp fun child _ ⟨finite, hu⟩ => ⟨finite, hu, trivial⟩
  obtain ⟨trees, hu, -⟩ := hw.exists_middle
  exact ⟨.node trees, unfolds_node_iff.2 hu⟩

/-- The subtrees of a finite tree are finite, and lower by the length of the path to them. -/
theorem Unfolds.exists_subtree {finite : Tree} (hu : Unfolds view tree finite)
    {positions : List Nat} {sub : τ} (h : subtreeAt view tree positions = some sub) :
    ∃ lower, Unfolds view sub lower ∧ lower.height + positions.length ≤ finite.height := by
  induction positions generalizing tree finite with
  | nil =>
    obtain rfl := Option.some.inj h
    exact ⟨finite, hu, Nat.le_refl _⟩
  | cons position positions ih =>
    obtain ⟨child, hc, h⟩ := subtreeAt_cons_eq_some_iff.1 h
    obtain ⟨layer⟩ := finite
    obtain ⟨between, hb, hub⟩ := (unfolds_node_iff.1 hu).exists_right hc
    obtain ⟨lower, hul, hl⟩ := ih hub h
    have hlt := Tree.height_lt_of_mem (List.mem_of_getElem? hb)
    rw [List.length_cons]
    exact ⟨lower, hul, by omega⟩

theorem IsFinite.subtree (h : IsFinite view tree) {positions : List Nat} {sub : τ}
    (hs : subtreeAt view tree positions = some sub) : IsFinite view sub := by
  obtain ⟨finite, hu⟩ := h
  obtain ⟨lower, hl, -⟩ := hu.exists_subtree hs
  exact ⟨lower, hl⟩

/-- A finite tree does not have its own unfolding below itself. -/
theorem IsFinite.not_agree_subtree (h : IsFinite view tree) {positions : List Nat} {sub : τ}
    (hs : subtreeAt view tree positions = some sub) (hp : positions ≠ []) :
    ¬Agree view tree sub := by
  intro ha
  obtain ⟨finite, hu⟩ := h
  obtain ⟨lower, hl, hh⟩ := hu.exists_subtree hs
  have he : lower = finite := hl.unique (hu.of_agree ha)
  have hlen : 0 < positions.length := List.length_pos_iff.2 hp
  rw [he] at hh
  omega

end Subtrees

/-! ## Routes -/

/-- Nodes give the same nodes each time that they are revealed. -/
def Forest.Steady (forest : Forest ε σ ν) : Prop :=
  ∀ node before before' layer layer' after after', forest.produce node before = .ok layer after →
    forest.produce node before' = .ok layer' after' → layer = layer'

variable {forest : Forest ε σ ν} {view : τ → Layer τ}

/-- From a state on, the positions lead down through the nodes listed. Each step waits for a time at
which all nodes still stand for their trees, and reveals the node in work. -/
inductive Route (meaning : forest.Interpretation view) : σ → ν → List Nat → List ν → Prop
  | here (before : σ) (node : ν) : Route meaning before node [] [node]
  | down {before now after : σ} {node child : ν} {layer : Layer ν} {position : Nat}
      {positions : List Nat} {nodes : List ν} (later : Keeps meaning.stands before now)
      (reveals : forest.produce node now = .ok layer after)
      (at_position : layer.payloads[position]? = some child)
      (rest : Route meaning after child positions nodes) :
      Route meaning before node (position :: positions) (node :: nodes)

namespace Route

variable {meaning : forest.Interpretation view} {before : σ} {node : ν} {positions : List Nat}
  {nodes : List ν}

/-- What may happen later may happen from an earlier state on. -/
theorem earlier {state : σ} (hk : Keeps meaning.stands before state)
    (h : Route meaning state node positions nodes) :
    Route meaning before node positions nodes := by
  cases h with
  | here => exact .here before node
  | down later reveals at_position rest =>
    exact .down (hk.trans later) reveals at_position rest

/-- A route has one node more than it takes positions. -/
theorem length_nodes (h : Route meaning before node positions nodes) :
    nodes.length = positions.length + 1 := by
  induction h with
  | here => rfl
  | down _ _ _ _ ih => rw [List.length_cons, List.length_cons, ih]

/-- Where nodes give the same nodes each time, the positions determine the nodes, and those of a
longer route begin with those of a shorter one. -/
theorem isPrefix (hst : forest.Steady) (h : Route meaning before node positions nodes)
    {before' : σ} {positions' : List Nat} {nodes' : List ν}
    (h' : Route meaning before' node positions' nodes') (hp : positions <+: positions') :
    nodes <+: nodes' := by
  induction h generalizing before' positions' nodes' with
  | here =>
    cases h' with
    | here => exact List.prefix_rfl
    | down => exact (List.prefix_cons_inj _).2 List.nil_prefix
  | @down _ now after _ child layer position positions nodes later reveals at_position rest ih =>
    cases h' with
    | here => cases List.prefix_nil.1 hp
    | @down _ now' after' _ child' layer' position' positions' nodes' later' reveals' at_position'
        rest' =>
      obtain ⟨rfl, hrest⟩ := List.cons_prefix_cons.1 hp
      obtain rfl : layer = layer' := hst _ _ _ _ _ _ _ reveals reveals'
      obtain rfl : child = child' := Option.some.inj (at_position.symm.trans at_position')
      exact (List.prefix_cons_inj _).2 (ih rest' hrest)

/-- A route may be cut at any of its nodes. The node stands for the subtree at the positions taken
so far, and the rest of the route leads on from it. -/
theorem split {tree : τ} (hs : meaning.stands before node tree) {front back : List ν} {cut : ν}
    (h : Route meaning before node positions (front ++ cut :: back)) :
    ∃ between sub upper lower, positions = upper ++ lower ∧ Keeps meaning.stands before between ∧
      Route meaning before node upper (front ++ [cut]) ∧
      subtreeAt view tree upper = some sub ∧ meaning.stands between cut sub ∧
      Route meaning between cut lower (cut :: back) := by
  induction front generalizing before node positions tree with
  | nil =>
    cases h with
    | here => exact ⟨before, tree, [], [], rfl, .refl _ _, .here before _, rfl, hs, .here before _⟩
    | down later reveals at_position rest =>
      exact ⟨before, tree, [], _, rfl, .refl _ _, .here before _, rfl, hs,
        .down later reveals at_position rest⟩
  | cons head front ih =>
    rw [List.cons_append] at h
    generalize hn : front ++ cut :: back = nodes at h
    cases h with
    | here => exact absurd hn (List.append_ne_nil_of_right_ne_nil _ (List.cons_ne_nil _ _))
    | @down _ now after _ child layer position positions _ later reveals at_position rest =>
      obtain ⟨other, state, hp, hl, hk⟩ := meaning.reveals (later _ _ hs)
      obtain ⟨rfl, rfl⟩ : other = layer ∧ state = after := by simpa [reveals] using hp.symm
      obtain ⟨childTree, hc, hsc⟩ := hl.exists_right at_position
      subst hn
      obtain ⟨between, sub, upper, lower, he, hkb, hu, hsub, hst, hlo⟩ := ih hsc rest
      refine ⟨between, sub, position :: upper, lower, ?_, (later.trans hk).trans hkb, ?_, ?_, hst,
        hlo⟩
      · rw [he, List.cons_append]
      · exact .down later reveals at_position hu
      · exact subtreeAt_cons_eq_some_iff.2 ⟨childTree, hc, hsub⟩

/-- The last node of a route stands for the subtree at its positions. -/
theorem exists_subtree {tree : τ} (hs : meaning.stands before node tree) {front : List ν}
    {last : ν} (h : Route meaning before node positions (front ++ [last])) :
    ∃ after sub, Keeps meaning.stands before after ∧ subtreeAt view tree positions = some sub ∧
      meaning.stands after last sub := by
  obtain ⟨after, sub, upper, lower, he, hk, -, hsub, hst, hlo⟩ := h.split hs
  have hn : lower = [] := by
    have hlen := hlo.length_nodes
    rw [List.length_singleton] at hlen
    exact List.length_eq_zero_iff.1 (by omega)
  rw [he, hn, List.append_nil]
  exact ⟨after, sub, hk, hsub, hst⟩

/-- A node that comes again below itself does not stand for a finite tree. -/
theorem not_isFinite_of_return {tree : τ} (hs : meaning.stands before node tree)
    {front : List ν} (h : Route meaning before node positions (front ++ [node]))
    (hp : positions ≠ []) : ¬IsFinite view tree := by
  intro hf
  obtain ⟨after, sub, hk, hsub, hst⟩ := h.exists_subtree hs
  exact hf.not_agree_subtree hsub hp (meaning.agree_of_stands (hk _ _ hs) hst)

/-- Where the positions lead to a finite subtree, the last node of a route is a new one. -/
theorem not_mem_of_isFinite {tree sub : τ} (hs : meaning.stands before node tree)
    (hsub : subtreeAt view tree positions = some sub) (hf : IsFinite view sub) {front : List ν}
    {last : ν} (h : Route meaning before node positions (front ++ [last])) : last ∉ front := by
  intro hm
  obtain ⟨above, between, rfl⟩ := List.append_of_mem hm
  rw [List.append_assoc, List.cons_append] at h
  obtain ⟨state, whole, upper, lower, he, hk, -, hu, hst, hlo⟩ := h.split hs
  -- the last node stands for the tree where it first came up and for the finite subtree of it
  rw [← List.cons_append] at hlo
  obtain ⟨after, part, hka, hpart, hsta⟩ := hlo.exists_subtree hst
  have hlower : subtreeAt view whole lower = some sub := by
    rw [← hsub, he, subtreeAt_append, hu, Option.bind_some]
  rw [hlower] at hpart
  obtain rfl := Option.some.inj hpart
  obtain ⟨finite, hfin⟩ := hf
  have ha := meaning.agree_of_stands hsta (hka _ _ hst)
  have hne : lower ≠ [] := by
    rintro rfl
    have hlen := hlo.length_nodes
    simp at hlen
  exact hlo.not_isFinite_of_return hst hne ⟨finite, hfin.of_agree ha⟩

private theorem exists_repetition {xs : List ν} (h : ¬xs.Nodup) :
    ∃ front last back, xs = front ++ last :: back ∧ last ∈ front := by
  induction xs with
  | nil => exact absurd List.nodup_nil h
  | cons x xs ih =>
    by_cases hx : x ∈ xs
    · obtain ⟨front, back, rfl⟩ := List.append_of_mem hx
      exact ⟨x :: front, x, back, rfl, List.mem_cons_self⟩
    · obtain ⟨front, last, back, rfl, hm⟩ := ih fun hn => h (List.nodup_cons.2 ⟨hx, hn⟩)
      exact ⟨x :: front, last, back, rfl, List.mem_cons_of_mem _ hm⟩

/-- No route below a node that stands for a finite tree visits a node twice. -/
theorem nodup_of_isFinite {tree : τ} (hs : meaning.stands before node tree)
    (hf : IsFinite view tree) (h : Route meaning before node positions nodes) : nodes.Nodup := by
  by_contra hd
  obtain ⟨front, last, back, rfl, hm⟩ := exists_repetition hd
  obtain ⟨between, sub, upper, lower, -, -, hu, hsub, -, -⟩ := h.split hs
  exact hu.not_mem_of_isFinite hs hsub (hf.subtree hsub) hm

end Route

end LayeredTree
