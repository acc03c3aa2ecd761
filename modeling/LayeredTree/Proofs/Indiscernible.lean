import LayeredTree.Algebra
import LayeredTree.Proofs.Comparison.Agreement
import LayeredTree.Proofs.Fold.FiniteTree

/-!
# Equal trees have the same folds

A comparison that says yes has found two trees with one unfolding. A fold answers with the fold of
the finite tree that the unfolding is, or is stopped by a guard, and so it cannot tell the two trees
apart. Hashing is such a fold: equal trees have one hash, or neither has a hash.
-/

universe u

namespace LayeredTree

variable {ε σ ν α : Type} {τ : Type u}

namespace Fold

/-- Two folds answer with one value, or a guard stops each of them. -/
inductive SameOutcome : EStateM.Result (Interruption ε) σ α →
    EStateM.Result (Interruption ε) σ α → Prop
  | answers (value : α) (left right : σ) : SameOutcome (.ok value left) (.ok value right)
  | stopped {reason other : Interruption ε} (hl : reason.OfGuard) (hr : other.OfGuard)
      (left right : σ) : SameOutcome (.error reason left) (.error other right)

variable [BEq ν] [LawfulBEq ν] [Hashable ν] {forest : Forest ε σ ν} {view : τ → Layer τ}
  (meaning : forest.Interpretation view) (settings : Settings)

/-- A fold answers for both of two trees with one unfolding, with one value, or for neither. -/
theorem fold_eq_ok_iff_of_agree (combine : Layer α → α) {left right : τ}
    (ha : Agree view left right) {s t : σ} {a b : ν} (hs : meaning.stands s a left)
    (ht : meaning.stands t b right) (value : α) :
    (∃ after, forest.fold settings (.ofPure combine) a s = .ok value after) ↔
      ∃ after, forest.fold settings (.ofPure combine) b t = .ok value after := by
  rw [fold_eq_ok_iff meaning settings combine hs, fold_eq_ok_iff meaning settings combine ht]
  exact ⟨fun h => h.of_agree ha, fun h => h.of_agree ha.symm⟩

/-- A fold has one outcome for two trees with one unfolding. -/
theorem sameOutcome_of_agree (combine : Layer α → α) {left right : τ}
    (ha : Agree view left right) {s t : σ} {a b : ν} (hs : meaning.stands s a left)
    (ht : meaning.stands t b right) :
    SameOutcome (forest.fold settings (.ofPure combine) a s)
      (forest.fold settings (.ofPure combine) b t) := by
  have hi := fold_eq_ok_iff_of_agree meaning settings combine ha hs ht
  have hl := ends_fold meaning settings combine hs
  have hr := ends_fold meaning settings combine ht
  cases hfl : forest.fold settings (.ofPure combine) a s with
  | ok value after =>
    obtain ⟨after', hfr⟩ := (hi value).1 ⟨after, hfl⟩
    rw [hfr]
    exact .answers value after after'
  | error reason after =>
    cases hfr : forest.fold settings (.ofPure combine) b t with
    | ok value after' =>
      obtain ⟨other, ho⟩ := (hi value).2 ⟨after', hfr⟩
      rw [hfl] at ho
      cases ho
    | error other after' =>
      rw [hfl] at hl
      rw [hfr] at hr
      cases hl with
      | error hl =>
        cases hr with
        | error hr => exact .stopped hl.ofGuard hr.ofGuard after after'

end Fold

variable [BEq ν] [LawfulBEq ν] [Hashable ν] {forest : Forest ε σ ν} {view : τ → Layer τ}

/-- Nodes that compare equal are the same to every fold without effects, hashing by any functions
included: both have one value, or a guard stops both. -/
theorem Forest.sameOutcome_of_equal (meaning : forest.Interpretation view) (settings : Settings)
    {before after : σ} {a b : ν} {left right : τ} (ha : meaning.stands before a left)
    (hb : meaning.stands before b right)
    (he : forest.equal settings a b before = .ok true after) {s t : σ}
    (hs : meaning.stands s a left) (ht : meaning.stands t b right) :
    (∀ (α : Type) (combine : Layer α → α),
      (∀ value, (∃ last, forest.fold settings (.ofPure combine) a s = .ok value last) ↔
        ∃ last, forest.fold settings (.ofPure combine) b t = .ok value last) ∧
      Fold.SameOutcome (forest.fold settings (.ofPure combine) a s)
        (forest.fold settings (.ofPure combine) b t)) ∧
    ∀ (κ : Type) (hasher : Hasher κ),
      Fold.SameOutcome (forest.fold settings (.ofPure hasher.layer) a s)
        (forest.fold settings (.ofPure hasher.layer) b t) := by
  have hd := Comparison.ends_equal meaning settings ha hb
  rw [he] at hd
  have hagree : Agree view left right := by
    cases hd with
    | ok keeps holds => exact holds
  refine ⟨fun α combine => ⟨fun value => ?_, ?_⟩, fun κ hasher => ?_⟩
  · exact Fold.fold_eq_ok_iff_of_agree meaning settings combine hagree hs ht value
  · exact Fold.sameOutcome_of_agree meaning settings combine hagree hs ht
  · exact Fold.sameOutcome_of_agree meaning settings hasher.layer hagree hs ht

/-- The count of one node with all nodes below it new is the count of the other one, and so is the
hash. -/
theorem Forest.sameOutcome_renewing_selfApplied :
    let forest : Forest Empty Nat (Nat × Bool) := .renewing selfApplied
    (∃ last, forest.fold { maxDepth := 2 } (.ofPure Algebra.count) (1, true) 8 = .ok 3 last) ∧
      Fold.SameOutcome
        (forest.fold { maxDepth := 2 } (.ofPure Hasher.mixing.layer) (0, true) 2)
        (forest.fold { maxDepth := 2 } (.ofPure Hasher.mixing.layer) (1, true) 8) := by
  intro forest
  let meaning : forest.Interpretation selfApplied := Forest.renewingInterpretation selfApplied
  have ha : meaning.stands 2 (0, true) true := rfl
  have hb : meaning.stands 2 (1, true) true := rfl
  have ht : meaning.stands 8 (1, true) true := rfl
  obtain ⟨after, he⟩ : ∃ after, forest.equal { maxDepth := 2 } (0, true) (1, true) 2 =
      .ok true after := by
    rw [Comparison.equal_eq_descend]
    exact ⟨_, rfl⟩
  have hc : ∃ last, forest.fold { maxDepth := 2 } (.ofPure Algebra.count) (0, true) 2 =
      .ok 3 last := by
    rw [Fold.fold_eq_descend]
    exact ⟨_, rfl⟩
  obtain ⟨hfold, hhash⟩ := Forest.sameOutcome_of_equal meaning { maxDepth := 2 } ha hb he ha ht
  exact ⟨((hfold _ Algebra.count).1 3).1 hc, hhash _ Hasher.mixing⟩

end LayeredTree
