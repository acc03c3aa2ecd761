import LayeredTree.Proofs.Comparison.Agreement
import LayeredTree.Proofs.Fold.Cycles
import LayeredTree.Proofs.Fold.FiniteTree

/-!
# The depth boundary

A finite tree is folded exactly when it is no higher than the depth bound, however its nodes are
shared, and is stopped by the depth guard otherwise. The comparison of the tree with a copy of it
draws the same line, as long as the two have no node in common: identical nodes would be passed over
without a look at what is below them. Since a comparison of separate trees passes over nothing, it
can say yes only after it has come to the end of every path.
-/

universe u

namespace LayeredTree

variable {ε σ ν α : Type} {τ : Type u} {forest : Forest ε σ ν} {view : τ → Layer τ}

/-! ## Folds that never fail on their own -/

/-- An algebra that never fails has results for the trees that fit into the levels left. -/
theorem Algebra.Unfailing.carries {algebra : Algebra ε σ α} {stands : σ → ν → τ → Prop}
    (ha : algebra.Unfailing stands) (view : τ → Layer τ) :
    algebra.Carries stands view fun levels tree _ => Fold.Fits view levels tree := by
  intro levels tree values before h
  obtain ⟨value, after, hv, hk⟩ := ha values before
  exact ⟨value, after, hv, hk, Fold.fits_of_children h⟩

section Folding

variable [BEq ν] [LawfulBEq ν] [Hashable ν] {meaning : forest.Interpretation view}
  {settings : Settings} {algebra : Algebra ε σ α} {before : σ} {root : ν} {tree : τ}
  {finite : Tree}

/-- A finite tree within the bound has a value. -/
theorem Fold.exists_fold_eq_ok (ha : algebra.Unfailing meaning.stands)
    (hs : meaning.stands before root tree) (hu : Unfolds view tree finite)
    (hh : finite.height ≤ settings.maxDepth) :
    ∃ value after, forest.fold settings algebra root before = .ok value after := by
  have he := ends_fold_of_carries meaning settings (ha.carries view) hs
  have hfits : Fits view settings.maxDepth tree := ⟨finite, hu, hh⟩
  obtain ⟨value, after, hr, -, -⟩ := he.exists_ok fun reason => hfits.not_refuses
  exact ⟨value, after, hr⟩

/-- A finite tree above the bound is stopped by the depth guard. -/
theorem Fold.exists_fold_eq_tooDeep (ha : algebra.Unfailing meaning.stands)
    (hs : meaning.stands before root tree) (hu : Unfolds view tree finite)
    (hh : settings.maxDepth < finite.height) :
    ∃ after, forest.fold settings algebra root before =
      .error (.tooDeep settings.maxDepth) after := by
  have he := ends_fold_of_carries meaning settings (ha.carries view) hs
  generalize forest.fold settings algebra root before = result at he
  cases he with
  | ok keeps fits => exact absurd (fits.height_le hu) (Nat.not_le_of_lt hh)
  | @error reason after refuses =>
    obtain ⟨rfl, -⟩ := refuses.of_unfolds finite hu fun _ hm => absurd hm List.not_mem_nil
    exact ⟨after, rfl⟩

end Folding

/-! ## Comparisons of separate trees -/

/-- No node ever stands for a part of each of the two trees. -/
def Forest.Interpretation.Separate (meaning : forest.Interpretation view) (left right : τ) :
    Prop :=
  ∀ upper lower part part', subtreeAt view left upper = some part →
    subtreeAt view right lower = some part' →
    ∀ state node, meaning.stands state node part → ¬meaning.stands state node part'

namespace Forest.Interpretation.Separate

variable {meaning : forest.Interpretation view} {left right : τ}

/-- Nodes that stand for separate trees are not identical. -/
theorem not_beq [BEq ν] [LawfulBEq ν] (h : meaning.Separate left right) {state : σ} {a b : ν}
    (ha : meaning.stands state a left) (hb : meaning.stands state b right) :
    ¬(a == b) = true := by
  intro hi
  obtain rfl := eq_of_beq hi
  exact h [] [] left right rfl rfl state a ha hb

/-- Children of separate trees are separate. -/
theorem of_mem (h : meaning.Separate left right) {child child' : τ}
    (hc : child ∈ (view left).payloads) (hc' : child' ∈ (view right).payloads) :
    meaning.Separate child child' := by
  obtain ⟨position, hp⟩ := List.mem_iff_getElem?.1 hc
  obtain ⟨position', hp'⟩ := List.mem_iff_getElem?.1 hc'
  intro upper lower part part' hu hl
  exact h (position :: upper) (position' :: lower) part part'
    (subtreeAt_cons_eq_some_iff.2 ⟨child, hp, hu⟩) (subtreeAt_cons_eq_some_iff.2 ⟨child', hp', hl⟩)

end Forest.Interpretation.Separate

namespace Comparison

variable [BEq ν] [LawfulBEq ν] (meaning : forest.Interpretation view)

/-- When the recursive comparison of separate trees says yes, they fit into the levels left. -/
theorem ends_descend_separate (settings : Settings) (levels : Nat) {before : σ} {a b : ν}
    {left right : τ} (h : meaning.Separate left right) (ha : meaning.stands before a left)
    (hb : meaning.stands before b right) :
    Walk.Ends meaning.stands (fun equal _ => if equal then Fold.Fits view levels left else True)
      (fun _ => True) before (descend forest settings levels a b before) := by
  induction levels generalizing before a b left right with
  | zero =>
    rw [descend, if_neg (h.not_beq ha hb)]
    exact .error trivial
  | succ levels ih =>
    rw [descend, if_neg (h.not_beq ha hb)]
    refine (meaning.ends_reveal ha _).bind fun layer between hk hl => ?_
    refine (meaning.ends_reveal (hk _ _ hb) _).bind fun other later hk' hr => ?_
    split
    next he =>
      have hs : (view left).shape = (view right).shape := by
        rw [← hl.shape_eq, ← hr.shape_eq, Layer.sameShape_iff.1 he]
      -- the nodes of the left layer still stand for their trees after the right one is revealed
      have hc := (hl.imp fun node tree h => hk' node tree h).with_mem
      have hz := Layer.forall₂_zip_zip hc.payloads hr.with_mem.payloads
      have ht := Walk.Ends.allM hz fun nodes trees hn last hkl =>
        ih (h.of_mem hn.1.2 hn.2.2) (hkl _ _ hn.1.1) (hkl _ _ hn.2.1)
      refine ht.imp (fun equal _ hyes => ?_) fun _ _ => trivial
      cases equal with
      | false => exact trivial
      | true =>
        have hp := List.forall₂_iff_zip.2
          ⟨Layer.length_payloads_of_shape hs, fun {x y} hm => hyes (x, y) hm⟩
        exact Fold.fits_of_children (.of_payloads hs hp)
    next => exact Walk.ends_pure trivial

variable {meaning} {settings : Settings} {before : σ} {a b : ν} {left right : τ} {finite : Tree}

/-- Nodes with one finite unfolding within the bound are equal. -/
theorem exists_equal_eq_true (ha : meaning.stands before a left)
    (hb : meaning.stands before b right) (hagree : Agree view left right)
    (hu : Unfolds view left finite) (hh : finite.height ≤ settings.maxDepth) :
    ∃ after, forest.equal settings a b before = .ok true after := by
  obtain ⟨equal, after, hr, hd⟩ := exists_equal_iff_agree meaning ha hb (.inl hu) hh
  rw [hd.2 hagree] at hr
  exact ⟨after, hr⟩

/-- The comparison of separate nodes with one finite unfolding above the bound is stopped by the
depth guard. -/
theorem exists_equal_eq_tooDeep (h : meaning.Separate left right)
    (ha : meaning.stands before a left) (hb : meaning.stands before b right)
    (hagree : Agree view left right) (hu : Unfolds view left finite)
    (hh : settings.maxDepth < finite.height) :
    ∃ after, forest.equal settings a b before = .error (.tooDeep settings.maxDepth) after := by
  have he := ends_equal meaning settings ha hb
  have hf := ends_descend_separate meaning settings settings.maxDepth h ha hb
  rw [← equal_eq_descend] at hf
  generalize forest.equal settings a b before = result at he hf
  cases he with
  | @ok equal after keeps decides =>
    cases hf with
    | ok _ fits =>
      cases equal with
      | true => exact absurd (fits.height_le hu) (Nat.not_le_of_lt hh)
      | false =>
        obtain ⟨path, -, hp⟩ := decides
        exact absurd hagree hp.not_agree
  | @error reason after exceeds =>
    obtain ⟨rfl, -⟩ := exceeds
    exact ⟨after, rfl⟩

end Comparison

variable [BEq ν] [LawfulBEq ν] [Hashable ν]

/-- A finite tree no higher than the bound has a fold and compares equal to any separate copy; for a
higher one the depth guard stops both, whether cycles are detected or not. -/
theorem Forest.depth_boundary (meaning : forest.Interpretation view) (settings : Settings)
    {before : σ} {root : ν} {tree : τ} {finite : Tree} (hs : meaning.stands before root tree)
    (hu : Unfolds view tree finite) :
    (∀ (α : Type) (algebra : Algebra ε σ α), algebra.Unfailing meaning.stands →
        (finite.height ≤ settings.maxDepth →
          ∃ value after, forest.fold settings algebra root before = .ok value after) ∧
        (settings.maxDepth < finite.height →
          ∃ after, forest.fold settings algebra root before =
            .error (.tooDeep settings.maxDepth) after)) ∧
      ∀ other copy, meaning.stands before other copy → Agree view tree copy →
        meaning.Separate tree copy →
        (finite.height ≤ settings.maxDepth →
          ∃ after, forest.equal settings root other before = .ok true after) ∧
        (settings.maxDepth < finite.height →
          ∃ after, forest.equal settings root other before =
            .error (.tooDeep settings.maxDepth) after) := by
  refine ⟨fun α algebra ha => ⟨fun hh => ?_, fun hh => ?_⟩,
    fun other copy ho hagree hsep => ⟨fun hh => ?_, fun hh => ?_⟩⟩
  · exact Fold.exists_fold_eq_ok ha hs hu hh
  · exact Fold.exists_fold_eq_tooDeep ha hs hu hh
  · exact Comparison.exists_equal_eq_true hs ho hagree hu hh
  · exact Comparison.exists_equal_eq_tooDeep hsep hs ho hagree hu hh

/-- An application of a leaf to itself, twice over. -/
def twins : Bool × Bool → Layer (Bool × Bool)
  | (side, true) => .apply (side, false) [(side, false)]
  | (_, false) => .var "x"

/-- The parts of a twin are on its side. -/
theorem fst_of_subtreeAt_twins {tree part : Bool × Bool} {positions : List Nat}
    (h : subtreeAt twins tree positions = some part) : part.1 = tree.1 := by
  induction positions generalizing tree with
  | nil =>
    obtain rfl := Option.some.inj h
    rfl
  | cons position positions ih =>
    obtain ⟨child, hc, h⟩ := subtreeAt_cons_eq_some_iff.1 h
    have hm := List.mem_of_getElem? hc
    rw [ih h]
    obtain ⟨side, inner⟩ := tree
    cases inner with
    | true =>
      simp only [twins, Layer.payloads, List.mem_cons, List.not_mem_nil, or_false, or_self] at hm
      rw [hm]
    | false => cases hm

/-- A tree of two levels with all nodes new is folded by an algebra that counts its calls, and
equals its twin, under a bound of two; both walks are stopped under a bound of one. -/
theorem Forest.depth_boundary_twins :
    let forest : Forest Empty Nat (Nat × Bool × Bool) := .renewing twins
    let numbering : Algebra Empty Nat Nat := fun _ next => .ok next (next + 1)
    (∃ value after, forest.fold { maxDepth := 2 } numbering (0, true, true) 2 =
        .ok value after) ∧
      (∃ after, forest.fold { maxDepth := 1 } numbering (0, true, true) 2 =
        .error (.tooDeep 1) after) ∧
      (∃ after, forest.equal { maxDepth := 2 } (0, true, true) (1, false, true) 2 =
        .ok true after) ∧
      ∃ after, forest.equal { maxDepth := 1 } (0, true, true) (1, false, true) 2 =
        .error (.tooDeep 1) after := by
  intro forest numbering
  let meaning : forest.Interpretation twins := Forest.renewingInterpretation twins
  have hs : meaning.stands 2 (0, true, true) (true, true) := rfl
  have ho : meaning.stands 2 (1, false, true) (false, true) := rfl
  have ha : numbering.Unfailing meaning.stands :=
    fun _ next => ⟨next, next + 1, rfl, fun _ _ h => h⟩
  have hleaf (side : Bool) : Unfolds twins (side, false) (.node (.var "x")) :=
    unfolds_node_iff.2 (.var "x")
  have hroot (side : Bool) : Unfolds twins (side, true)
      (.node (.apply (.node (.var "x")) [.node (.var "x")])) :=
    unfolds_node_iff.2 (.apply (hleaf side) (.cons (hleaf side) .nil))
  have hsep : meaning.Separate (true, true) (false, true) := by
    intro upper lower part part' hu hl state node hp hp'
    obtain rfl : part = part' := Eq.trans (Eq.symm hp) hp'
    cases (fst_of_subtreeAt_twins hu).symm.trans (fst_of_subtreeAt_twins hl)
  have hagree := agree_of_unfolds (hroot true) (hroot false)
  obtain ⟨hfold, hequal⟩ := Forest.depth_boundary meaning { maxDepth := 2 } hs (hroot true)
  obtain ⟨hfold', hequal'⟩ := Forest.depth_boundary meaning { maxDepth := 1 } hs (hroot true)
  exact ⟨(hfold _ numbering ha).1 (by decide), (hfold' _ numbering ha).2 (by decide),
    (hequal _ _ ho hagree hsep).1 (by decide), (hequal' _ _ ho hagree hsep).2 (by decide)⟩

end LayeredTree
