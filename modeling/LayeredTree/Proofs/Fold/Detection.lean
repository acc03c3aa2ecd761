import LayeredTree.Proofs.Fold.Cycles
import LayeredTree.Proofs.Fold.Guards

/-!
# Folds without the detection of cycles

Whether cycles are detected decides nothing but the error. A fold that has a value comes to the end
of every path, and so meets no cycle that could be detected. A fold that meets one goes on, when it
does not look for it, until a path exceeds the depth bound. It cannot come to a value there, since
it would have to be one with detection as well, and the depth guard is the only one left to stop it.
-/

universe u

namespace LayeredTree

variable {ε σ ν α : Type} {τ : Type u} {forest : Forest ε σ ν} {view : τ → Layer τ}
  [BEq ν] [LawfulBEq ν] [Hashable ν]

/-- Without the detection of cycles, a fold that has no value is stopped at the depth bound. -/
theorem Fold.exists_fold_eq_tooDeep_of_not_detects (meaning : forest.Interpretation view)
    {settings : Settings} (combine : Layer α → α) {before : σ} {root : ν} {tree : τ}
    (hd : settings.detectCycles = false) (hs : meaning.stands before root tree)
    (hn : ¬∃ value after, forest.fold settings (.ofPure combine) root before = .ok value after) :
    ∃ after, forest.fold settings (.ofPure combine) root before =
      .error (.tooDeep settings.maxDepth) after := by
  cases hr : forest.fold settings (.ofPure combine) root before with
  | ok value after => exact absurd ⟨value, after, hr⟩ hn
  | error reason after =>
    obtain rfl := (stops_of_fold_ofPure meaning combine hs hr).eq_tooDeep hd
    exact ⟨after, rfl⟩

/-- With the detection of cycles or without it a fold has the same value, or it has none in either
case; without detection it is then the depth bound that is exceeded. -/
theorem Forest.fold_without_detection (meaning : forest.Interpretation view) (settings : Settings)
    (combine : Layer α → α) {before later : σ} {root : ν} {tree : τ}
    (hs : meaning.stands before root tree) (ht : meaning.stands later root tree) :
    let watching :=
      forest.fold { settings with detectCycles := true } (.ofPure combine) root before
    let blind := forest.fold { settings with detectCycles := false } (.ofPure combine) root later
    (∀ value, (∃ after, blind = .ok value after) ↔ ∃ after, watching = .ok value after) ∧
      (∀ limit after, watching = .error (.tooDeep limit) after →
        ∃ last, blind = .error (.tooDeep limit) last) ∧
      ∀ depth after, watching = .error (.cyclic depth) after →
        ∃ last, blind = .error (.tooDeep settings.maxDepth) last := by
  intro watching blind
  have hvalue (value : α) :
      (∃ after, blind = .ok value after) ↔ ∃ after, watching = .ok value after := by
    -- both say that the tree has this value within the bound, which the settings have in common
    rw [Fold.fold_eq_ok_iff meaning _ combine ht, Fold.fold_eq_ok_iff meaning _ combine hs]
  have hblind {reason : Interruption ε} {after : σ} (h : watching = .error reason after) :
      ∃ last, blind = .error (.tooDeep settings.maxDepth) last := by
    refine Fold.exists_fold_eq_tooDeep_of_not_detects meaning combine rfl ht ?_
    rintro ⟨value, hok⟩
    obtain ⟨last, hw⟩ := (hvalue value).1 hok
    rw [h] at hw
    cases hw
  refine ⟨hvalue, fun limit after h => ?_, fun depth after h => hblind h⟩
  cases Fold.stops_of_fold_ofPure meaning combine hs h
  exact hblind h

/-- A fold that stops at the root below itself unfolds the loop up to the bound when cycles are not
detected, past the shared leaf before it. -/
theorem Forest.fold_sharedAndLoop_without_detection :
    let forest : Forest Empty (List Notice) (Fin 3) :=
      ⟨fun node state => .ok (sharedAndLoop node) state, fun notice notices => notices ++ [notice]⟩
    let settings : Settings := { maxDepth := 3 }
    (∃ after, forest.fold { settings with detectCycles := true } (.ofPure Algebra.count) 0 [] =
        .error (.cyclic 2) after) ∧
      ∃ last, forest.fold { settings with detectCycles := false } (.ofPure Algebra.count) 0 [] =
        .error (.tooDeep 3) last := by
  intro forest settings
  have hshows : forest.Shows sharedAndLoop := fun _ _ => rfl
  let meaning : forest.Interpretation sharedAndLoop := hshows.interpretation
  have hs : meaning.stands [] 0 0 := rfl
  obtain ⟨after, hcyclic⟩ : ∃ after, forest.fold { settings with detectCycles := true }
      (.ofPure Algebra.count) 0 [] = .error (.cyclic 2) after := by
    rw [Fold.fold_eq_descend]
    exact ⟨_, rfl⟩
  obtain ⟨-, -, hdeep⟩ := Forest.fold_without_detection meaning settings Algebra.count hs hs
  exact ⟨⟨after, hcyclic⟩, hdeep 2 after hcyclic⟩

end LayeredTree
