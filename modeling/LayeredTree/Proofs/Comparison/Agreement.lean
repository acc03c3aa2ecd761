import LayeredTree.Proofs.Comparison.Refinement
import LayeredTree.Proofs.Purity

/-!
# The comparison decides whether two trees are equal

On a pure forest, a comparison that says yes has found that the two unfoldings agree at the end of
every path, however long, since identical nodes stand for trees with one unfolding. A comparison
that says no has found a path within the bound at whose end the unfoldings differ. A comparison
that is stopped has found a path in both unfoldings that is too long for the bound, so that neither
of the two trees is finite and within the bound.
-/

universe u

namespace LayeredTree

variable {ε σ ν : Type} {τ : Type u}

/-- Both unfoldings have a layer at the end of the path. -/
def Shared (view : τ → Layer τ) (left right : τ) (path : List Nat) : Prop :=
  (shapeAt view left path).isSome ∧ (shapeAt view right path).isSome

theorem shared_nil (view : τ → Layer τ) (left right : τ) : Shared view left right [] :=
  ⟨rfl, rfl⟩

/-- A path that children in one place share is, after that place, a path that the nodes share. -/
theorem Shared.cons {view : τ → Layer τ} {left right a b : τ} {position : Nat}
    (ha : (view left).payloads[position]? = some a)
    (hb : (view right).payloads[position]? = some b) {path : List Nat}
    (h : Shared view a b path) : Shared view left right (position :: path) := by
  rw [Shared, shapeAt_of_child ha, shapeAt_of_child hb]
  exact h

namespace Comparison

/-- What an answer says about the trees that two nodes stand for. -/
def Decides (view : τ → Layer τ) (levels : Nat) (left right : τ) (equal : Bool) : Prop :=
  if equal then Agree view left right
  else ∃ path, path.length < levels ∧ PartAt view left right path

/-- What a failure says about the trees that two nodes stand for. -/
def Exceeds (view : τ → Layer τ) (settings : Settings) (levels : Nat) (left right : τ)
    (reason : Interruption ε) : Prop :=
  reason = .tooDeep settings.maxDepth ∧
    ∃ path, levels ≤ path.length ∧ Shared view left right path

section Children

variable {view : τ → Layer τ} {settings : Settings} {levels : Nat} {left right : τ}

private theorem exists_position {xs ys : List τ} {pair : τ × τ} (h : pair ∈ xs.zip ys) :
    ∃ position : Nat, xs[position]? = some pair.1 ∧ ys[position]? = some pair.2 := by
  obtain ⟨position, hp⟩ := List.mem_iff_getElem?.1 h
  exact ⟨position, List.getElem?_zip_eq_some.1 hp⟩

/-- The answers about the pairs of children decide about two layers of one shape. -/
theorem decides_of_children (hs : (view left).shape = (view right).shape) {equal : Bool}
    (h : if equal then
        ∀ pair ∈ (view left).payloads.zip (view right).payloads, Agree view pair.1 pair.2
      else ∃ pair ∈ (view left).payloads.zip (view right).payloads,
        ∃ path, path.length < levels ∧ PartAt view pair.1 pair.2 path) :
    Decides view (levels + 1) left right equal := by
  cases equal with
  | true =>
    have hp := List.forall₂_iff_zip.2
      ⟨Layer.length_payloads_of_shape hs, fun {a b} hm => h (a, b) hm⟩
    exact agree_iff.2 (.of_payloads hs hp)
  | false =>
    obtain ⟨pair, hm, path, hl, hp⟩ := h
    obtain ⟨position, ha, hb⟩ := exists_position hm
    exact ⟨position :: path, Nat.succ_lt_succ hl, hp.cons hs ha hb⟩

/-- A pair of children that exceeds the levels left shows that the nodes exceed one more. -/
theorem exceeds_of_children {reason : Interruption ε}
    (h : ∃ pair ∈ (view left).payloads.zip (view right).payloads,
      Exceeds view settings levels pair.1 pair.2 reason) :
    Exceeds view settings (levels + 1) left right reason := by
  obtain ⟨pair, hm, hr, path, hl, hp⟩ := h
  obtain ⟨position, ha, hb⟩ := exists_position hm
  exact ⟨hr, position :: path, Nat.succ_le_succ hl, hp.cons ha hb⟩

end Children

variable [BEq ν] [LawfulBEq ν] {forest : Forest ε σ ν} {view : τ → Layer τ}

/-- Identical nodes are equal without being asked for their layers, and rightly so. -/
theorem ends_descend_of_beq (meaning : forest.Interpretation view) (settings : Settings)
    (levels : Nat) {before : σ} {a b : ν} {left right : τ} (ha : meaning.stands before a left)
    (hb : meaning.stands before b right) (hi : (a == b) = true) :
    Walk.Ends meaning.stands (fun equal _ => Decides view levels left right equal)
      (Exceeds view settings levels left right) before
      (descend forest settings levels a b before) := by
  obtain rfl := eq_of_beq hi
  rw [descend_of_beq _ _ _ hi]
  exact Walk.ends_pure (meaning.agree_of_stands ha hb)

/-- The recursive comparison of two nodes decides about their trees, or is stopped by a path that
exceeds the levels left. -/
theorem ends_descend (meaning : forest.Interpretation view) (settings : Settings) (levels : Nat)
    {before : σ} {a b : ν} {left right : τ} (ha : meaning.stands before a left)
    (hb : meaning.stands before b right) :
    Walk.Ends meaning.stands (fun equal _ => Decides view levels left right equal)
      (Exceeds view settings levels left right) before
      (descend forest settings levels a b before) := by
  induction levels generalizing before a b left right with
  | zero =>
    by_cases hi : (a == b) = true
    · exact ends_descend_of_beq meaning settings 0 ha hb hi
    · rw [descend, if_neg hi]
      exact .error ⟨rfl, [], Nat.le_refl 0, shared_nil view left right⟩
  | succ levels ih =>
    by_cases hi : (a == b) = true
    · exact ends_descend_of_beq meaning settings (levels + 1) ha hb hi
    rw [descend, if_neg hi]
    refine (meaning.ends_reveal ha _).bind fun layer between hk hl => ?_
    refine (meaning.ends_reveal (hk _ _ hb) _).bind fun other later hk' hr => ?_
    have hs : layer.sameShape other = true ↔ (view left).shape = (view right).shape := by
      rw [Layer.sameShape_iff, hl.shape_eq, hr.shape_eq]
    by_cases he : layer.sameShape other = true
    · rw [if_pos he]
      -- the nodes of the left layer still stand for their trees after the right one is revealed
      have hc := hl.imp fun node tree h => hk' node tree h
      have hz := Layer.forall₂_zip_zip hc.payloads hr.payloads
      have ht := Walk.Ends.allM hz fun nodes trees hn last hkl =>
        ih (hkl _ _ hn.1) (hkl _ _ hn.2)
      exact ht.imp (fun _ _ => decides_of_children (hs.1 he)) fun _ => exceeds_of_children
    · rw [if_neg he]
      exact Walk.ends_pure ⟨[], Nat.succ_pos levels, partAt_nil fun h => he (hs.2 h)⟩

/-- The comparison of two nodes decides about their trees, or is stopped by a path that exceeds the
bound. -/
theorem ends_equal (meaning : forest.Interpretation view) (settings : Settings) {before : σ}
    {a b : ν} {left right : τ} (ha : meaning.stands before a left)
    (hb : meaning.stands before b right) :
    Walk.Ends meaning.stands (fun equal _ => Decides view settings.maxDepth left right equal)
      (Exceeds view settings settings.maxDepth left right) before
      (forest.equal settings a b before) := by
  rw [equal_eq_descend]
  exact ends_descend meaning settings settings.maxDepth ha hb

/-- A finite tree within the bound does not exceed it, whatever it is compared with. -/
theorem not_exceeds_of_unfolds {settings : Settings} {left right : τ} {tree : Tree}
    (hu : Unfolds view left tree ∨ Unfolds view right tree) (hh : tree.height ≤ settings.maxDepth)
    (reason : Interruption ε) : ¬Exceeds view settings settings.maxDepth left right reason := by
  rintro ⟨-, path, hp, hl, hr⟩
  have hlt : path.length < tree.height := by
    rcases hu with hu | hu
    · obtain ⟨shape, hs⟩ := Option.isSome_iff_exists.1 hl
      exact hu.length_lt_height hs
    · obtain ⟨shape, hs⟩ := Option.isSome_iff_exists.1 hr
      exact hu.length_lt_height hs
  omega

/-- A comparison in which one of the two trees is finite and within the bound has an answer, which
decides whether the trees have the same unfolding. -/
theorem exists_equal_iff_agree (meaning : forest.Interpretation view) {settings : Settings}
    {before : σ} {a b : ν} {left right : τ} (ha : meaning.stands before a left)
    (hb : meaning.stands before b right) {tree : Tree}
    (hu : Unfolds view left tree ∨ Unfolds view right tree)
    (hh : tree.height ≤ settings.maxDepth) :
    ∃ equal after, forest.equal settings a b before = .ok equal after ∧
      (equal = true ↔ Agree view left right) := by
  obtain ⟨equal, after, hr, -, hd⟩ :=
    (ends_equal meaning settings ha hb).exists_ok (not_exceeds_of_unfolds hu hh)
  refine ⟨equal, after, hr, ?_⟩
  cases equal with
  | true => exact iff_of_true rfl hd
  | false =>
    obtain ⟨path, -, hp⟩ := hd
    exact iff_of_false Bool.false_ne_true hp.not_agree

end Comparison

variable [BEq ν] [LawfulBEq ν] {forest : Forest ε σ ν} {view : τ → Layer τ}

/-- On a pure forest, a comparison that says yes has two nodes with one unfolding, one that says no
two nodes with different ones, and where one tree is finite within the bound there is an answer. -/
theorem Forest.equal_decides_agree (meaning : forest.Interpretation view) (settings : Settings)
    {before : σ} {a b : ν} {left right : τ} (ha : meaning.stands before a left)
    (hb : meaning.stands before b right) :
    (∀ after, forest.equal settings a b before = .ok true after → Agree view left right) ∧
      (∀ after, forest.equal settings a b before = .ok false after →
        ∃ path, path.length < settings.maxDepth ∧ PartAt view left right path) ∧
      ∀ tree, Unfolds view left tree ∨ Unfolds view right tree →
        tree.height ≤ settings.maxDepth →
        ∃ equal after, forest.equal settings a b before = .ok equal after ∧
          (equal = true ↔ Agree view left right) := by
  have he := Comparison.ends_equal meaning settings ha hb
  refine ⟨fun after h => ?_, fun after h => ?_, fun tree hu hh => ?_⟩
  · rw [h] at he
    cases he with
    | ok keeps holds => exact holds
  · rw [h] at he
    cases he with
    | ok keeps holds => exact holds
  · obtain ⟨equal, after, hr, -, hd⟩ := he.exists_ok (Comparison.not_exceeds_of_unfolds hu hh)
    refine ⟨equal, after, hr, ?_⟩
    cases equal with
    | true => exact iff_of_true rfl hd
    | false =>
      obtain ⟨path, -, hp⟩ := hd
      exact iff_of_false Bool.false_ne_true hp.not_agree

/-- An application of a leaf to itself. -/
def selfApplied : Bool → Layer Bool
  | true => .apply false [false]
  | false => .var "x"

/-- Two nodes for the same finite tree are equal though all the nodes below them are new. -/
theorem Forest.equal_renewing_selfApplied :
    ∃ after, (Forest.renewing selfApplied : Forest Empty Nat (Nat × Bool)).equal
      { maxDepth := 2 } (0, true) (1, true) 2 = .ok true after := by
  let meaning : (Forest.renewing selfApplied : Forest Empty Nat (Nat × Bool)).Interpretation
    selfApplied := Forest.renewingInterpretation selfApplied
  have ha : meaning.stands 2 (0, true) true := rfl
  have hb : meaning.stands 2 (1, true) true := rfl
  have hleaf : Unfolds selfApplied false (.node (.var "x")) := unfolds_node_iff.2 (.var "x")
  have hroot : Unfolds selfApplied true
      (.node (.apply (.node (.var "x")) [.node (.var "x")])) :=
    unfolds_node_iff.2 (.apply hleaf (.cons hleaf .nil))
  obtain ⟨-, -, hfinite⟩ := Forest.equal_decides_agree meaning { maxDepth := 2 } ha hb
  obtain ⟨equal, after, he, hd⟩ := hfinite _ (.inl hroot) (by decide)
  rw [hd.2 (.refl selfApplied true)] at he
  exact ⟨after, he⟩

end LayeredTree
