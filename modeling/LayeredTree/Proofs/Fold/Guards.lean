import LayeredTree.Proofs.Fold.FiniteTree

/-!
# The guards that stop a fold

A fold that is stopped by a guard is stopped by one that its settings have put up, and reports what
the settings say: a cycle only where cycles are detected, and the depth bound of the settings as the
limit. This holds in every forest and for every algebra. What else may stop a fold comes from the
nodes and the algebra.
-/

universe u

namespace LayeredTree

variable {ε σ ν α : Type} {τ : Type u}

/-- The reasons for which the guards of some settings stop a walk. -/
inductive Settings.Stops (settings : Settings) : Interruption ε → Prop
  | cyclic (depth : Nat) (detected : settings.detectCycles = true) :
      settings.Stops (.cyclic depth)
  | tooDeep : settings.Stops (.tooDeep settings.maxDepth)

/-- Without the detection of cycles, only the depth guard stops a walk. -/
theorem Settings.Stops.eq_tooDeep {settings : Settings} {reason : Interruption ε}
    (h : settings.Stops reason) (hd : settings.detectCycles = false) :
    reason = .tooDeep settings.maxDepth := by
  cases h with
  | cyclic depth detected =>
    rw [hd] at detected
    cases detected
  | tooDeep => rfl

/-- What knows nothing of guards is not stopped by one. -/
theorem Forest.not_ofGuard_of_lift {action : EStateM ε σ α} {reason : Interruption ε}
    {before after : σ} (h : lift action before = .error reason after) : ¬reason.OfGuard := by
  unfold lift at h
  split at h
  · cases h
  · cases h
    exact nofun

namespace Fold

/-- A guard does not stop a fold where results are combined. -/
theorem not_ofGuard_of_collapse {algebra : Algebra ε σ α} {frame : Frame ν α}
    {reason : Interruption ε} {before after : σ}
    (h : collapse algebra frame before = .error reason after) : ¬reason.OfGuard := by
  unfold collapse at h
  cases hf : frame.layer.refill frame.results.reverse with
  | some filled =>
    rw [hf] at h
    exact Forest.not_ofGuard_of_lift h
  | none =>
    rw [hf] at h
    cases h
    exact nofun

variable [BEq ν] [Hashable ν] {forest : Forest ε σ ν} {settings : Settings}
  {algebra : Algebra ε σ α} {reason : Interruption ε} {before after : σ}

/-- A guard that stops a step is one of the settings. -/
theorem stops_of_step {stack : Stack ν α}
    (h : step forest settings algebra stack before = .error reason after) (hg : reason.OfGuard) :
    settings.Stops reason := by
  cases hp : stack.top.pending with
  | cons child pending =>
    simp only [step, hp] at h
    split at h
    next hc =>
      rw [Bool.and_eq_true] at hc
      cases h
      exact .cyclic _ hc.1
    split at h
    · cases h
      exact .tooDeep
    rcases Walk.of_bind_eq_error h with h | ⟨layer, between, -, h⟩
    · exact absurd hg (Forest.not_ofGuard_of_lift h)
    · cases h
  | nil =>
    simp only [step, hp] at h
    rcases Walk.of_bind_eq_error h with h | ⟨value, between, -, h⟩
    · exact absurd hg (not_ofGuard_of_collapse h)
    · cases hb : stack.below with
      | nil => rw [hb] at h; cases h
      | cons parent below => rw [hb] at h; cases h

/-- A guard that stops the loop is one of the settings. -/
theorem stops_of_run {stack : Stack ν α}
    (h : run forest settings algebra stack before = .error reason after) (hg : reason.OfGuard) :
    settings.Stops reason := by
  induction stack, before using run.induct forest settings algebra with
  | case1 stack state next between hs ih =>
    rw [run_eq_step_bind, Walk.bind_of_ok hs] at h
    exact ih h
  | case2 stack state value between hs =>
    rw [run_eq_step_bind, Walk.bind_of_ok hs] at h
    cases h
  | case3 stack state other between hs =>
    rw [run_eq_step_bind, Walk.bind_of_error hs] at h
    cases h
    exact stops_of_step hs hg

/-- A guard that stops a fold is one of the settings. -/
theorem stops_of_fold {root : ν}
    (h : forest.fold settings algebra root before = .error reason after) (hg : reason.OfGuard) :
    settings.Stops reason := by
  rcases Walk.of_bind_eq_error h with h | ⟨layer, between, -, h⟩
  · exact absurd hg (Forest.not_ofGuard_of_lift h)
  · exact stops_of_run h hg

/-- On a pure forest, what stops a fold without effects is a guard of the settings. -/
theorem stops_of_fold_ofPure [LawfulBEq ν] {view : τ → Layer τ}
    (meaning : forest.Interpretation view) (combine : Layer α → α) {root : ν} {tree : τ}
    (hs : meaning.stands before root tree)
    (h : forest.fold settings (.ofPure combine) root before = .error reason after) :
    settings.Stops reason := by
  have he := ends_fold meaning settings combine hs
  rw [h] at he
  cases he with
  | error refuses => exact stops_of_fold h refuses.ofGuard

end Fold

end LayeredTree
