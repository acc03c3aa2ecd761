import LayeredTree.Proofs.Comparison.Refinement
import LayeredTree.Proofs.Fold.Simulation

/-!
# Walks that go alike

Folds of one node over alike forests, by algebras that send related layers to related results, go
alike: either both end for one reason, or both have results and these are related. In particular, a
fold that is observed ends as it does unobserved. Where two forests are alike down to the depth
limit, comparisons of related nodes ask related nodes in the same order, and come to one answer or
end for one reason.
-/

namespace LayeredTree

/-! ## Folds -/

section Folds

variable {ε σ τ ν α β : Type}

/-- Folds of one node go alike. -/
theorem Fold.alike_fold [BEq ν] [LawfulBEq ν] [Hashable ν] {T : σ → τ → Prop} {R : α → β → Prop}
    {left : Forest ε σ ν} {right : Forest ε τ ν} {f : Algebra ε σ α} {g : Algebra ε τ β}
    (hf : left.Alike T right) (ha : f.Alike T R g) (settings : Settings) (root : ν) :
    Walk.Alike T R (left.fold settings f root) (right.fold settings g root) :=
  alike_fold_within (hf.within settings.maxDepth) ha rfl

/-- A fold by one algebra, changed by a function, is a fold by another one when the algebras send
related layers to related results, and the function takes a result to what is related to it. -/
theorem Forest.map_fold_of_rel [BEq ν] [LawfulBEq ν] [Hashable ν] {R : α → β → Prop} {h : α → β}
    {f : Layer α → α} {g : Layer β → β} (hr : ∀ a b, R a b → h a = b)
    (hfg : ∀ layer layer', Layer.Rel R layer layer' → R (f layer) (g layer'))
    (forest : Forest ε σ ν) (settings : Settings) (root : ν) :
    h <$> forest.fold settings (.ofPure f) root = forest.fold settings (.ofPure g) root := by
  have hf := Fold.alike_fold (Forest.Alike.refl forest) (Algebra.alike_ofPure hfg) settings root
  rw [← bind_pure (forest.fold settings (.ofPure g) root), map_eq_pure_bind]
  exact Walk.eq_of_alike (hf.bind fun a b hab => Walk.alike_pure (hr a b hab))

/-- A function that takes one algebra to another one may be applied to the result of the fold or on
the way. -/
theorem Forest.map_fold [BEq ν] [LawfulBEq ν] [Hashable ν] {f : Layer α → α} {g : Layer β → β}
    {h : α → β} (hfg : ∀ layer, h (f layer) = g (layer.map h)) (forest : Forest ε σ ν)
    (settings : Settings) (root : ν) :
    h <$> forest.fold settings (.ofPure f) root = forest.fold settings (.ofPure g) root := by
  refine forest.map_fold_of_rel (R := fun a b => h a = b) (fun _ _ he => he) ?_ settings root
  intro layer layer' hl
  rw [hfg, Layer.map_eq_iff_rel.2 hl]

section Observation

/-- A computation after an event goes as it does without the event. -/
theorem Observed.alike_after (event : Event ν α) (action : EStateM ε σ β) :
    Walk.Alike (fun seen state => seen.state = state) Eq (after event action) action := by
  intro seen state states
  obtain rfl := states
  unfold after
  cases action seen.state with
  | ok value state => exact .ok rfl rfl
  | error cause state => exact .error cause rfl

/-- Observing a forest leaves it alike. -/
theorem Forest.alike_observed (forest : Forest ε σ ν) :
    (forest.observed : Forest ε (Observed σ ν α) ν).Alike (fun seen state => seen.state = state)
      forest where
  produce _ := Observed.alike_after _ _
  report notice _ _ states := congrArg (forest.report notice) states

/-- Observing an algebra leaves it alike. -/
theorem Algebra.alike_observed (algebra : Algebra ε σ α) :
    (algebra.observed : Algebra ε (Observed σ ν α) α).Alike (fun seen state => seen.state = state)
      Eq algebra := by
  intro layer layer' hl
  rw [Layer.rel_eq_iff.1 hl]
  exact Observed.alike_after _ _

variable [DecidableEq ν] [Hashable ν]

/-- An observed fold ends as it does unobserved. -/
theorem Forest.alike_fold_observed (forest : Forest ε σ ν) (settings : Settings)
    (algebra : Algebra ε σ α) (root : ν) :
    Walk.Alike (fun seen state => seen.state = state) Eq
      (forest.observed.fold settings algebra.observed root) (forest.fold settings algebra root) :=
  Fold.alike_fold forest.alike_observed algebra.alike_observed settings root

/-- The fold with an explicit stack ends as the recursive fold does, and with the same events in
the same order. -/
theorem Forest.fold_eq_foldRecursively (forest : Forest ε σ ν) (settings : Settings)
    (algebra : Algebra ε σ α) (root : ν) :
    forest.fold settings algebra root = forest.foldRecursively settings algebra root ∧
      forest.observed.fold settings algebra.observed root =
        forest.observed.foldRecursively settings algebra.observed root :=
  ⟨Fold.fold_eq_descend _ _ _ _, Fold.fold_eq_descend _ _ _ _⟩

end Observation

end Folds

/-! ## Comparisons -/

namespace Comparison

variable {ε σ τ ν μ : Type} [BEq ν] [BEq μ] {T : σ → τ → Prop} {N : Nat → ν → μ → Prop}
  {left : Forest ε σ ν} {right : Forest ε τ μ} {settings : Settings}

/-- Recursive comparisons go alike when the levels left are those from the depth of the nodes down
to the limit. -/
theorem alike_descend (hf : left.AlikeWithin settings.maxDepth T N right) (levels : Nat)
    {depth : Nat} (hd : depth + levels = settings.maxDepth + 1) {a b : ν} {a' b' : μ}
    (ha : N depth a a') (hb : N depth b b') :
    Walk.Alike T Eq (descend left settings levels a b) (descend right settings levels a' b') := by
  have hi := hf.identity ha hb
  induction levels generalizing depth a b a' b' with
  | zero =>
    rw [descend, descend, hi]
    split
    · exact Walk.alike_pure rfl
    · exact fun _ _ states => .error _ (hf.report _ states)
  | succ levels ih =>
    rw [descend, descend, hi]
    split
    · exact Walk.alike_pure rfl
    have hw : depth ≤ settings.maxDepth := by omega
    refine (hf.produce hw ha).lift.bind fun layer layer' hl => ?_
    refine (hf.produce hw hb).lift.bind fun other other' hr => ?_
    have hs : layer.sameShape other = layer'.sameShape other' := by
      rw [Bool.eq_iff_iff, Layer.sameShape_iff, Layer.sameShape_iff, hl.shape_eq, hr.shape_eq]
    rw [hs]
    split
    · refine Walk.Alike.allM (fun pair pair' hp => ?_)
        (Layer.forall₂_zip_zip hl.payloads hr.payloads)
      exact ih (by omega) hp.1 hp.2 (hf.identity hp.1 hp.2)
    · exact Walk.alike_pure rfl

/-- Comparisons of related roots go alike. -/
theorem alike_equal (hf : left.AlikeWithin settings.maxDepth T N right) {a b : ν} {a' b' : μ}
    (ha : N 1 a a') (hb : N 1 b b') :
    Walk.Alike T Eq (left.equal settings a b) (right.equal settings a' b') := by
  rw [equal_eq_descend, equal_eq_descend]
  exact alike_descend hf settings.maxDepth (Nat.add_comm 1 _) ha hb

end Comparison

end LayeredTree
