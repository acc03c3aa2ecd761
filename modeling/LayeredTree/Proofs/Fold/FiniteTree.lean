import LayeredTree.Proofs.Fold.Refinement
import LayeredTree.Proofs.Purity

/-!
# The fold on a pure forest is the fold of a finite tree

On a pure forest, a fold without effects answers exactly when the root stands for a tree that
unfolds to a finite one within the depth bound, and the answer is the fold of that tree. The cycle
guard never stops the fold of a finite tree, since every node on the path stands for a higher tree
than the child that the path leads to. Where there is no answer, one of the two guards stopped the
fold.
-/

universe u

namespace LayeredTree

variable {ε σ ν α : Type} {τ : Type u}

/-- Reasons for which a guard stops a walk. -/
inductive Interruption.OfGuard : Interruption ε → Prop
  | cyclic (depth : Nat) : OfGuard (.cyclic depth)
  | tooDeep (limit : Nat) : OfGuard (.tooDeep limit)

/-- From results of the children that are as expected, the algebra has a result that is as expected
of the node one level further up, and all nodes go on standing for their trees. -/
def Algebra.Carries (algebra : Algebra ε σ α) (stands : σ → ν → τ → Prop) (view : τ → Layer τ)
    (expected : Nat → τ → α → Prop) : Prop :=
  ∀ levels tree values before, Layer.Rel (expected levels) (view tree) values →
    ∃ value after, algebra values before = .ok value after ∧ Keeps stands before after ∧
      expected (levels + 1) tree value

namespace Fold

/-- A tree unfolds to a finite one within the levels left, and the value is the fold of that. -/
def Computes (view : τ → Layer τ) (combine : Layer α → α) (levels : Nat) (tree : τ) (value : α) :
    Prop :=
  ∃ finite, (Unfolds view tree finite ∧ finite.height ≤ levels) ∧ finite.fold combine = value

/-- A tree unfolds to a finite one within the levels left. -/
def Fits (view : τ → Layer τ) (levels : Nat) (tree : τ) : Prop :=
  ∃ finite, Unfolds view tree finite ∧ finite.height ≤ levels

theorem Computes.fits {view : τ → Layer τ} {combine : Layer α → α} {levels : Nat} {tree : τ}
    {value : α} (h : Computes view combine levels tree value) : Fits view levels tree := by
  obtain ⟨finite, hf, -⟩ := h
  exact ⟨finite, hf⟩

/-- The only finite tree that a tree unfolds to is within the levels that the tree fits into. -/
theorem Fits.height_le {view : τ → Layer τ} {levels : Nat} {tree : τ} (h : Fits view levels tree)
    {finite : Tree} (hu : Unfolds view tree finite) : finite.height ≤ levels := by
  obtain ⟨other, ho, hh⟩ := h
  rwa [hu.unique ho]

/-- Finite trees that children unfold to make up one that the node unfolds to, a level higher. -/
theorem unfolds_of_children {view : τ → Layer τ} {levels : Nat} {tree : τ} {trees : Layer Tree}
    (h : Layer.Rel (fun child finite => Unfolds view child finite ∧ finite.height ≤ levels)
      (view tree) trees) :
    Unfolds view tree (.node trees) ∧ (Tree.node trees).height ≤ levels + 1 := by
  refine ⟨unfolds_node_iff.2 (h.imp fun _ _ hc => hc.1), ?_⟩
  refine Tree.height_node_le_iff.2 fun finite hm => ?_
  obtain ⟨position, hp⟩ := List.mem_iff_getElem?.1 hm
  obtain ⟨child, -, hc⟩ := h.exists_left hp
  exact hc.2

/-- A tree fits into one level more than its children. -/
theorem fits_of_children {β : Type*} {view : τ → Layer τ} {levels : Nat} {tree : τ}
    {values : Layer β} (h : Layer.Rel (fun child _ => Fits view levels child) (view tree) values) :
    Fits view (levels + 1) tree := by
  have hw : Layer.Rel (fun child _ => ∃ finite,
      (Unfolds view child finite ∧ finite.height ≤ levels) ∧ True) (view tree) values :=
    h.imp fun child _ ⟨finite, hf⟩ => ⟨finite, hf, trivial⟩
  obtain ⟨trees, hu, -⟩ := hw.exists_middle
  exact ⟨.node trees, unfolds_of_children hu⟩

/-- The values of the children are combined into the value of the node. -/
theorem computes_of_children {view : τ → Layer τ} {combine : Layer α → α} {levels : Nat} {tree : τ}
    {values : Layer α} (h : Layer.Rel (Computes view combine levels) (view tree) values) :
    Computes view combine (levels + 1) tree (combine values) := by
  obtain ⟨trees, hu, hf⟩ := h.exists_middle
  refine ⟨.node trees, unfolds_of_children hu, ?_⟩
  rw [Tree.fold_node, Layer.map_eq_iff_rel.2 hf]

/-- A tree has at most one value. -/
theorem Computes.unique {view : τ → Layer τ} {combine : Layer α → α} {levels levels' : Nat}
    {tree : τ} {value value' : α} (h : Computes view combine levels tree value)
    (h' : Computes view combine levels' tree value') : value = value' := by
  obtain ⟨finite, ⟨hu, -⟩, rfl⟩ := h
  obtain ⟨finite', ⟨hu', -⟩, rfl⟩ := h'
  rw [hu.unique hu']

/-- Trees with one unfolding have the same value. -/
theorem Computes.of_agree {view : τ → Layer τ} {combine : Layer α → α} {levels : Nat}
    {left right : τ} {value : α} (h : Computes view combine levels left value)
    (ha : Agree view left right) : Computes view combine levels right value := by
  obtain ⟨finite, ⟨hu, hh⟩, hf⟩ := h
  exact ⟨finite, ⟨hu.of_agree ha, hh⟩, hf⟩

/-- Every node on a path stands for a finite tree that is higher than a given one. -/
def Overtops (stands : σ → ν → τ → Prop) (view : τ → Layer τ) (state : σ) (path : List ν)
    (finite : Tree) : Prop :=
  ∀ ancestor ∈ path, ∃ tree higher, stands state ancestor tree ∧ Unfolds view tree higher ∧
    finite.height < higher.height

/-- What a failure says about the node at the end of a path: a guard stopped the fold, and where
the node stands for a finite tree below higher ones, that tree is higher than the levels left. -/
structure Refuses (stands : σ → ν → τ → Prop) (view : τ → Layer τ) (settings : Settings)
    (state : σ) (path : List ν) (levels : Nat) (tree : τ) (reason : Interruption ε) : Prop where
  /-- A guard stopped the fold. -/
  ofGuard : reason.OfGuard
  /-- On a finite tree only the depth guard does. -/
  of_unfolds : ∀ finite, Unfolds view tree finite → Overtops stands view state path finite →
    reason = .tooDeep settings.maxDepth ∧ levels < finite.height

section Path

variable {stands : σ → ν → τ → Prop} {view : τ → Layer τ} {before after : σ} {path : List ν}

/-- Nodes that go on standing for their trees go on overtopping. -/
theorem Overtops.keeps {finite : Tree} (h : Overtops stands view before path finite)
    (hk : Keeps stands before after) : Overtops stands view after path finite := by
  intro ancestor hm
  obtain ⟨tree, higher, hs, hu, hl⟩ := h ancestor hm
  exact ⟨tree, higher, hk _ _ hs, hu, hl⟩

/-- A node and the path to it overtop what is lower than the node. -/
theorem Overtops.cons {finite lower : Tree} {node : ν} {tree : τ}
    (h : Overtops stands view before path finite) (hs : stands before node tree)
    (hu : Unfolds view tree finite) (hl : lower.height < finite.height) :
    Overtops stands view before (node :: path) lower := by
  refine List.forall_mem_cons.2 ⟨⟨tree, finite, hs, hu, hl⟩, fun ancestor hm => ?_⟩
  obtain ⟨other, higher, ho, huo, hlo⟩ := h ancestor hm
  exact ⟨other, higher, ho, huo, Nat.lt_trans hl hlo⟩

/-- A child of a node stands for a lower tree than the node. -/
theorem exists_lower {tree child : τ} {finite : Tree} (hu : Unfolds view tree finite)
    (hm : child ∈ (view tree).payloads) :
    ∃ lower, Unfolds view child lower ∧ lower.height < finite.height := by
  obtain ⟨layer⟩ := finite
  obtain ⟨position, hp⟩ := List.mem_iff_getElem?.1 hm
  obtain ⟨lower, hl, hc⟩ := (unfolds_node_iff.1 hu).exists_right hp
  exact ⟨lower, hc, Tree.height_lt_of_mem (List.mem_of_getElem? hl)⟩

/-- A failure at a child is one at the node. -/
theorem Refuses.of_child {settings : Settings} {levels : Nat} {node : ν} {tree child : τ}
    {reason : Interruption ε} (h : Refuses stands view settings after (node :: path) levels child
      reason) (hk : Keeps stands before after) (hs : stands before node tree)
    (hm : child ∈ (view tree).payloads) :
    Refuses stands view settings before path (levels + 1) tree reason where
  ofGuard := h.ofGuard
  of_unfolds finite hu ho := by
    obtain ⟨lower, hc, hl⟩ := exists_lower hu hm
    obtain ⟨hr, hh⟩ := h.of_unfolds lower hc ((ho.keeps hk).cons (hk _ _ hs) hu hl)
    exact ⟨hr, by omega⟩

/-- A root that fits into the levels left is not refused. -/
theorem Fits.not_refuses {settings : Settings} {levels : Nat} {tree : τ} {reason : Interruption ε}
    (h : Fits view levels tree) : ¬Refuses stands view settings before [] levels tree reason := by
  obtain ⟨finite, hu, hh⟩ := h
  intro hr
  obtain ⟨-, hl⟩ := hr.of_unfolds finite hu fun _ hm => absurd hm List.not_mem_nil
  omega

end Path

section Recursion

/-- Algebras without effects carry the values of finite trees. -/
theorem carries_ofPure (stands : σ → ν → τ → Prop) (view : τ → Layer τ) (combine : Layer α → α) :
    (Algebra.ofPure combine : Algebra ε σ α).Carries stands view (Computes view combine) :=
  fun _ _ _ before h => ⟨_, before, rfl, .refl _ _, computes_of_children h⟩

variable {forest : Forest ε σ ν} {view : τ → Layer τ} (meaning : forest.Interpretation view)

/-- A node does not stand for a finite tree below itself. -/
theorem Overtops.not_mem {state : σ} {path : List ν} {node : ν} {tree : τ} {finite : Tree}
    (h : Overtops meaning.stands view state path finite) (hs : meaning.stands state node tree)
    (hu : Unfolds view tree finite) : node ∉ path := by
  intro hm
  obtain ⟨other, higher, ho, huo, hl⟩ := h node hm
  have he := (huo.of_agree (meaning.agree_of_stands ho hs)).unique hu
  rw [he] at hl
  exact Nat.lt_irrefl _ hl

/-- A child that is on the path shows that the node does not stand for a finite tree. -/
theorem refuses_cyclic {settings : Settings} {before after : σ} {path : List ν} {levels : Nat}
    {node other : ν} {tree child : τ} (hk : Keeps meaning.stands before after)
    (hs : meaning.stands before node tree) (hm : child ∈ (view tree).payloads)
    (hc : meaning.stands after other child) (hp : other ∈ node :: path) (depth : Nat) :
    Refuses meaning.stands view settings before path levels tree
      (.cyclic depth : Interruption ε) where
  ofGuard := .cyclic depth
  of_unfolds finite hu ho := by
    obtain ⟨lower, hcl, hl⟩ := exists_lower hu hm
    have hn := ((ho.keeps hk).cons (hk _ _ hs) hu hl).not_mem meaning hc hcl
    exact absurd hp hn

variable [BEq ν] [LawfulBEq ν]

/-- The recursive fold of a node answers as expected, by an algebra that carries the expectation up
the tree, or is stopped by a guard. -/
theorem ends_descend_of_carries (settings : Settings) {algebra : Algebra ε σ α}
    {expected : Nat → τ → α → Prop} (ha : algebra.Carries meaning.stands view expected)
    (levels : Nat) {before : σ} {path : List ν} {node : ν} {tree : τ}
    (hs : meaning.stands before node tree) :
    Walk.Ends meaning.stands (fun value _ => expected levels tree value)
      (Refuses meaning.stands view settings before path levels tree) before
      (descend forest settings algebra levels path node before) := by
  induction levels generalizing before path node tree with
  | zero => exact .error ⟨.tooDeep _, fun finite _ _ => ⟨rfl, finite.height_pos⟩⟩
  | succ levels ih =>
    rw [descend]
    refine (meaning.ends_reveal hs _).bind fun layer between hk hl => ?_
    refine (Walk.Ends.traverse (P := expected levels) hl fun other child hm hc later hkl =>
      ?_).bind fun values later _ hv => ?_
    · have hkb := hk.trans hkl
      by_cases hg : (settings.detectCycles && (node :: path).contains other) = true
      · rw [if_pos hg]
        rw [Bool.and_eq_true, List.contains_iff_mem] at hg
        exact .error (refuses_cyclic meaning hkb hs hm (hkl _ _ hc) hg.2 _)
      · rw [if_neg hg]
        exact (ih (hkl _ _ hc)).imp (fun _ _ h => h) fun _ h => h.of_child hkb hs hm
    · obtain ⟨value, last, hlast, hkl, he⟩ := ha levels tree values later hv
      rw [Forest.lift, hlast]
      exact .ok hkl he

variable [Hashable ν]

/-- The fold of a node answers as expected, by an algebra that carries the expectation up the tree,
or is stopped by a guard. -/
theorem ends_fold_of_carries (settings : Settings) {algebra : Algebra ε σ α}
    {expected : Nat → τ → α → Prop} (ha : algebra.Carries meaning.stands view expected)
    {before : σ} {root : ν} {tree : τ} (hs : meaning.stands before root tree) :
    Walk.Ends meaning.stands (fun value _ => expected settings.maxDepth tree value)
      (Refuses meaning.stands view settings before [] settings.maxDepth tree) before
      (forest.fold settings algebra root before) := by
  rw [fold_eq_descend]
  exact ends_descend_of_carries meaning settings ha settings.maxDepth hs

/-- The fold of a node answers with the fold of its finite tree, or is stopped by a guard. -/
theorem ends_fold (settings : Settings) (combine : Layer α → α) {before : σ} {root : ν} {tree : τ}
    (hs : meaning.stands before root tree) :
    Walk.Ends meaning.stands (fun value _ => Computes view combine settings.maxDepth tree value)
      (Refuses meaning.stands view settings before [] settings.maxDepth tree) before
      (forest.fold settings (.ofPure combine) root before) :=
  ends_fold_of_carries meaning settings (carries_ofPure meaning.stands view combine) hs

/-- A fold answers with a value exactly when that is the fold of a finite tree within the bound. -/
theorem fold_eq_ok_iff (settings : Settings) (combine : Layer α → α) {before : σ} {root : ν}
    {tree : τ} (hs : meaning.stands before root tree) (value : α) :
    (∃ after, forest.fold settings (.ofPure combine) root before = .ok value after) ↔
      Computes view combine settings.maxDepth tree value := by
  have he := ends_fold meaning settings combine hs
  constructor
  · rintro ⟨after, h⟩
    rw [h] at he
    cases he with
    | ok keeps holds => exact holds
  · intro hv
    obtain ⟨other, after, hr, -, ho⟩ := he.exists_ok fun reason => hv.fits.not_refuses
    exact ⟨after, by rw [hr, ho.unique hv]⟩

/-- The fold of a finite tree within the bound. -/
theorem fold_eq_ok_of_unfolds {settings : Settings} (combine : Layer α → α) {before : σ}
    {root : ν} {tree : τ} {finite : Tree} (hs : meaning.stands before root tree)
    (hu : Unfolds view tree finite) (hh : finite.height ≤ settings.maxDepth) :
    ∃ after, forest.fold settings (.ofPure combine) root before =
      .ok (finite.fold combine) after :=
  (fold_eq_ok_iff meaning settings combine hs _).2 ⟨finite, ⟨hu, hh⟩, rfl⟩

end Recursion

end Fold

end LayeredTree
