import LayeredTree.Algebra
import LayeredTree.Proofs.Comparison.Agreement
import LayeredTree.Proofs.Fold.Guards
import LayeredTree.Proofs.Relational

/-!
# Fusion of folds

A function that takes one algebra to another one takes the fold by the first to the fold by the
second. Neither the guards nor the nodes take notice of the results, so the two folds end for the
same reason where they end without a result, and what happens on the way is the same in both: the
same nodes are asked for their layers in the same order, the same notices are recorded, and the
algebras are given corresponding layers.
-/

universe u

namespace LayeredTree

variable {ε σ ν α β γ δ : Type} {τ : Type u}

/-- An event in which the results of an algebra are changed. -/
def Event.mapResults (h : α → β) : Event ν α → Event ν β
  | .asked node => .asked node
  | .given layer => .given (layer.map h)
  | .recorded notice => .recorded notice

/-- The same state, after the same events but for the results in them. -/
structure Observed.Fused (h : α → β) (seen : Observed σ ν α) (other : Observed σ ν β) : Prop where
  /-- The states are the same. -/
  state_eq : seen.state = other.state
  /-- The events are the same once their results are changed. -/
  events_eq : seen.events.map (Event.mapResults h) = other.events

section Observation

variable {h : α → β}

/-- One more event in both leaves the events corresponding. -/
theorem Observed.Fused.extend {seen : Observed σ ν α} {other : Observed σ ν β}
    (hs : Fused h seen other) (event : Event ν α) (state : σ) :
    Fused h ⟨state, seen.events ++ [event]⟩ ⟨state, other.events ++ [event.mapResults h]⟩ where
  state_eq := rfl
  events_eq := by rw [List.map_append, hs.events_eq, List.map_singleton]

/-- Computations after corresponding events go alike as they do without the events. -/
theorem Observed.alike_after_fused {R : γ → δ → Prop} (event : Event ν α) {left : EStateM ε σ γ}
    {right : EStateM ε σ δ} (ha : Walk.Alike Eq R left right) :
    Walk.Alike (Fused h) R (after event left) (after (event.mapResults h) right) := by
  intro seen other states
  have hs := ha seen.state other.state states.state_eq
  unfold after
  generalize left seen.state = l, right other.state = r at hs
  cases hs with
  | ok answers hstate =>
    subst hstate
    exact .ok answers (states.extend event _)
  | error cause hstate =>
    subst hstate
    exact .error cause (states.extend event _)

/-- An observed forest is alike whatever the results are. -/
theorem Forest.alike_observed_fused (forest : Forest ε σ ν) :
    (forest.observed : Forest ε (Observed σ ν α) ν).Alike (Observed.Fused h) forest.observed where
  produce node := Observed.alike_after_fused (.asked node) (.refl (forest.produce node))
  report notice seen other states := by
    have he := states.extend (.recorded notice) (forest.report notice seen.state)
    rw [states.state_eq] at he
    exact { he with state_eq := congrArg (forest.report notice) states.state_eq }

/-- Two observed algebras are alike when the function takes the one to the other. -/
theorem Algebra.alike_observed_fused {f : Layer α → α} {g : Layer β → β}
    (hfg : ∀ layer, h (f layer) = g (layer.map h)) :
    ((Algebra.ofPure f).observed : Algebra ε (Observed σ ν α) α).Alike (Observed.Fused h)
      (fun a b => h a = b) (Algebra.ofPure g).observed := by
  intro layer layer' hl
  rw [← Layer.map_eq_iff_rel.2 hl]
  exact Observed.alike_after_fused (.given layer) (Walk.alike_pure (hfg layer))

end Observation

/-- The number of tags is the number of nodes, at every node of a tree. -/
theorem Algebra.length_tags (layer : Layer (List String)) :
    (tags layer).length = count (layer.map List.length) := by
  have hsum (lengths : List Nat) (start : Nat) :
      lengths.foldl (· + ·) start = start + lengths.sum := by
    induction lengths generalizing start with
    | nil => rfl
    | cons length lengths ih => rw [List.foldl_cons, ih, List.sum_cons, Nat.add_assoc]
  rw [count, Layer.payloads_map, hsum, ← List.length_flatten, Nat.add_comm]
  exact List.length_append

variable [BEq ν] [LawfulBEq ν] [Hashable ν] {forest : Forest ε σ ν} {view : τ → Layer τ}

/-- A function that takes one algebra to another takes the fold by the one to that by the other, or
a guard stops both; the events are the same, up to the results, which the function changes. -/
theorem Forest.fold_fusion {f : Layer α → α} {g : Layer β → β} {h : α → β}
    (hfg : ∀ layer, h (f layer) = g (layer.map h)) (meaning : forest.Interpretation view)
    (settings : Settings) {before : σ} {root : ν} {tree : τ}
    (hs : meaning.stands before root tree) :
    ((∃ value after, forest.fold settings (.ofPure f) root before = .ok value after ∧
        forest.fold settings (.ofPure g) root before = .ok (h value) after) ∨
      ∃ reason after, settings.Stops reason ∧
        forest.fold settings (.ofPure f) root before = .error reason after ∧
        forest.fold settings (.ofPure g) root before = .error reason after) ∧
      (Walk.stateAfter (forest.observed.fold settings (Algebra.ofPure g).observed root
          (.start before))).events =
        (Walk.stateAfter (forest.observed.fold settings (Algebra.ofPure f).observed root
          (.start before))).events.map (Event.mapResults h) := by
  constructor
  · have hfold := congrFun (forest.map_fold hfg settings root) before
    rw [map_eq_pure_bind] at hfold
    cases hl : forest.fold settings (.ofPure f) root before with
    | ok value after =>
      rw [Walk.bind_of_ok hl] at hfold
      exact .inl ⟨value, after, rfl, hfold.symm⟩
    | error reason after =>
      rw [Walk.bind_of_error hl] at hfold
      have hstops := Fold.stops_of_fold_ofPure meaning f hs hl
      exact .inr ⟨reason, after, hstops, rfl, hfold.symm⟩
  · have ho := Fold.alike_fold forest.alike_observed_fused (Algebra.alike_observed_fused hfg)
      settings root (.start before) (.start before) ⟨rfl, rfl⟩
    exact ho.states.events_eq.symm

/-- The nodes of a tree are counted by listing their tags, also where all the nodes are new. -/
theorem Forest.fold_tags_and_count :
    let forest : Forest Empty Nat (Nat × Bool) := .renewing selfApplied
    ∃ after, forest.fold { maxDepth := 2 } (.ofPure Algebra.tags) (0, true) 1 =
        .ok ["variable", "variable", "apply"] after ∧
      forest.fold { maxDepth := 2 } (.ofPure Algebra.count) (0, true) 1 = .ok 3 after := by
  intro forest
  let meaning : forest.Interpretation selfApplied := Forest.renewingInterpretation selfApplied
  have hs : meaning.stands 1 (0, true) true := rfl
  obtain ⟨after, ht⟩ : ∃ after, forest.fold { maxDepth := 2 } (.ofPure Algebra.tags) (0, true) 1 =
      .ok ["variable", "variable", "apply"] after := by
    rw [Fold.fold_eq_descend]
    exact ⟨_, rfl⟩
  obtain ⟨hfold, -⟩ := Forest.fold_fusion Algebra.length_tags meaning { maxDepth := 2 } hs
  rw [ht] at hfold
  rcases hfold with ⟨value, after', hl, hr⟩ | ⟨reason, after', -, hl, -⟩
  · cases hl
    exact ⟨after, ht, hr⟩
  · cases hl

end LayeredTree
