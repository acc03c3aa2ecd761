import LayeredTree.Proofs.Relational
import LayeredTree.Proofs.Placement

/-!
# Walks end, and stay within their limit

The loop of a fold and that of a comparison come to a result after finitely many steps, whatever
the forest: its trees may contain themselves, or go on for ever with new nodes each time. And no
walk asks a node for its layer that stands deeper than the limit of the settings.
-/

namespace LayeredTree

variable {ε σ α ν : Type}

namespace Fold

variable [BEq ν] [Hashable ν] (forest : Forest ε σ ν) (settings : Settings)
  (algebra : Algebra ε σ α)

/-- The loop, for at most so many steps. There is no result where it would go on. -/
def runFor : Nat → Stack ν α → σ → Option (EStateM.Result (Interruption ε) σ α)
  | 0, _, _ => none
  | steps + 1, stack, state =>
    match step forest settings algebra stack state with
    | .ok (.running next) state => runFor steps next state
    | .ok (.finished value) state => some (.ok value state)
    | .error reason state => some (.error reason state)

/-- The loop comes to its result after finitely many steps. -/
theorem exists_runFor_eq_run (stack : Stack ν α) (state : σ) :
    ∃ steps, runFor forest settings algebra steps stack state =
      some (run forest settings algebra stack state) := by
  induction stack, state using run.induct forest settings algebra with
  | case1 stack state next after h ih =>
    obtain ⟨steps, hs⟩ := ih
    refine ⟨steps + 1, ?_⟩
    rw [runFor, h, run_eq_step_bind, Walk.bind_of_ok h]
    exact hs
  | case2 stack state value after h =>
    refine ⟨1, ?_⟩
    rw [runFor, h, run_eq_step_bind, Walk.bind_of_ok h]
    rfl
  | case3 stack state reason after h =>
    refine ⟨1, ?_⟩
    rw [runFor, h, run_eq_step_bind, Walk.bind_of_error h]

end Fold

namespace Comparison

variable [BEq ν] (forest : Forest ε σ ν) (settings : Settings)

/-- The loop, for at most so many steps. There is no result where it would go on. -/
def runFor : Nat → List (Pair ν) → σ → Option (EStateM.Result (Interruption ε) σ Bool)
  | 0, _, _ => none
  | steps + 1, pending, state =>
    match step forest settings pending state with
    | .ok (.running next) state => runFor steps next state
    | .ok (.finished equal) state => some (.ok equal state)
    | .error reason state => some (.error reason state)

/-- The loop comes to its result after finitely many steps. -/
theorem exists_runFor_eq_run (pending : List (Pair ν)) (state : σ) :
    ∃ steps, runFor forest settings steps pending state =
      some (run forest settings pending state) := by
  induction pending, state using run.induct forest settings with
  | case1 pending state next after h ih =>
    obtain ⟨steps, hs⟩ := ih
    refine ⟨steps + 1, ?_⟩
    rw [runFor, h, run_eq_step_bind, Walk.bind_of_ok h]
    exact hs
  | case2 pending state equal after h =>
    refine ⟨1, ?_⟩
    rw [runFor, h, run_eq_step_bind, Walk.bind_of_ok h]
    rfl
  | case3 pending state reason after h =>
    refine ⟨1, ?_⟩
    rw [runFor, h, run_eq_step_bind, Walk.bind_of_error h]

end Comparison

/-- From any stack and any list of pairs the loops end after finitely many steps, and neither a fold
nor a comparison asks a node below the limit for its layer, the root being at depth one. -/
theorem Forest.walks_end_within_limit [DecidableEq ν] [Hashable ν] (forest : Forest ε σ ν)
    (settings : Settings) (algebra : Algebra ε σ α) (left right : ν) (state : σ) :
    (∀ stack before, ∃ steps, Fold.runFor forest settings algebra steps stack before =
        some (Fold.run forest settings algebra stack before)) ∧
      (∀ pending before, ∃ steps, Comparison.runFor forest settings steps pending before =
        some (Comparison.run forest settings pending before)) ∧
      Walk.ResultAlike (Observed.Traces settings.maxDepth) Eq
        (forest.placed.observed.fold settings algebra.observed (.root left) (.start state))
        (forest.observed.fold settings algebra.observed left (.start state)) ∧
      Walk.ResultAlike (Observed.Traces (α := α) settings.maxDepth) Eq
        (forest.placed.observed.equal settings (.root left) (.root right) (.start state))
        (forest.observed.equal settings left right (.start state)) := by
  have hs := Observed.Traces.start (ν := ν) (α := α) settings.maxDepth state
  have hf : Forest.AlikeWithin _ _ _ _ _ := forest.alikeWithin_placed (α := α) settings.maxDepth
  refine ⟨Fold.exists_runFor_eq_run forest settings algebra,
    Comparison.exists_runFor_eq_run forest settings, ?_, ?_⟩
  · have ha := algebra.alike_observed_placed (ν := ν) settings.maxDepth
    exact Fold.alike_fold_within hf ha ⟨rfl, rfl⟩ _ _ hs
  · exact Comparison.alike_equal hf ⟨rfl, rfl⟩ ⟨rfl, rfl⟩ _ _ hs

end LayeredTree
