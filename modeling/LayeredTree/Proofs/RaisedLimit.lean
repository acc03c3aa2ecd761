import LayeredTree.Algebra
import LayeredTree.Proofs.Comparison.Refinement
import LayeredTree.Proofs.Fold.Guards
import LayeredTree.Proofs.Relational

/-!
# Raising the depth limit

A walk under some depth limit and the same walk under a higher one go alike until the lower limit
stops the first of them. Where it does not, the two come to the same, errors and everything that
happens on the way included; so a walk that hits the higher limit hits the lower one, too. This
holds for folds and for comparisons, in every forest and for every algebra.
-/

namespace LayeredTree

namespace Walk

variable {ε σ α β γ : Type}

/-! ## Walks with a lower and a higher limit -/

/-- The depth guard stopped the walk. -/
def HitsLimit (result : EStateM.Result (Interruption ε) σ α) : Prop :=
  ∃ limit after, result = .error (.tooDeep limit) after

/-- What two walks come to of which the first has a lower limit: the depth guard stops the first
one, which tells nothing about the second one, or it does not, and they come to the same. -/
inductive ResultOutlasted (limit : Nat) : EStateM.Result (Interruption ε) σ α →
    EStateM.Result (Interruption ε) σ α → Prop
  | stopped (after : σ) (longer : EStateM.Result (Interruption ε) σ α) :
      ResultOutlasted limit (.error (.tooDeep limit) after) longer
  | same {result : EStateM.Result (Interruption ε) σ α} (unstopped : ¬HitsLimit result) :
      ResultOutlasted limit result result

/-- Where the depth guard does not stop the shorter walk, the longer one comes to the same. -/
theorem ResultOutlasted.eq_of_not_hitsLimit {limit : Nat}
    {shorter longer : EStateM.Result (Interruption ε) σ α}
    (h : ResultOutlasted limit shorter longer) (hn : ¬HitsLimit shorter) : longer = shorter := by
  cases h with
  | stopped after => exact absurd ⟨limit, after, rfl⟩ hn
  | same => rfl

/-- Where the depth guard stops the longer walk, it stops the shorter one at the lower limit. -/
theorem ResultOutlasted.exists_error_of_hitsLimit {limit : Nat}
    {shorter longer : EStateM.Result (Interruption ε) σ α}
    (h : ResultOutlasted limit shorter longer) (hl : HitsLimit longer) :
    ∃ after, shorter = .error (.tooDeep limit) after := by
  cases h with
  | stopped after => exact ⟨after, rfl⟩
  | same unstopped => exact absurd hl unstopped

/-- From every state on, the second walk comes to what the first one comes to, unless the depth
guard stops the first one. -/
def Outlasted (limit : Nat) (shorter longer : Walk ε σ α) : Prop :=
  ∀ state, ResultOutlasted limit (shorter state) (longer state)

variable {limit : Nat}

/-- A walk that the depth guard never stops may have any limit. -/
theorem outlasted_of_not_hitsLimit {walk : Walk ε σ α} (h : ∀ state, ¬HitsLimit (walk state)) :
    Outlasted limit walk walk :=
  fun state => .same (h state)

theorem outlasted_pure (answer : α) :
    Outlasted limit (pure answer : Walk ε σ α) (pure answer) :=
  outlasted_of_not_hitsLimit nofun

/-- What knows nothing of guards may be done under any limit. -/
theorem outlasted_lift (action : EStateM ε σ α) :
    Outlasted limit (Forest.lift action) (Forest.lift action) := by
  refine outlasted_of_not_hitsLimit ?_
  rintro state ⟨other, after, h⟩
  exact Forest.not_ofGuard_of_lift h (.tooDeep other)

/-- Sequences outlast each other when their parts do. -/
theorem Outlasted.bind {shorter longer : Walk ε σ α} {f g : α → Walk ε σ β}
    (h : Outlasted limit shorter longer) (hn : ∀ answer, Outlasted limit (f answer) (g answer)) :
    Outlasted limit (shorter >>= f) (longer >>= g) := by
  intro state
  have hs := h state
  generalize hl : shorter state = l, hr : longer state = r at hs
  cases hs with
  | stopped after =>
    rw [bind_of_error hl]
    exact .stopped after _
  | same unstopped =>
    cases l with
    | ok answer after =>
      rw [bind_of_ok hl, bind_of_ok hr]
      exact hn answer after
    | error reason after =>
      rw [bind_of_error hl, bind_of_error hr]
      refine .same ?_
      rintro ⟨other, last, he⟩
      cases he
      exact unstopped ⟨other, after, rfl⟩

/-- Runs over a list outlast each other when they do for each item. -/
theorem Outlasted.mapM {f g : γ → Walk ε σ α} (h : ∀ item, Outlasted limit (f item) (g item))
    (items : List γ) : Outlasted limit (items.mapM f) (items.mapM g) := by
  induction items with
  | nil =>
    rw [List.mapM_nil, List.mapM_nil]
    exact outlasted_pure []
  | cons item items ih =>
    rw [List.mapM_cons, List.mapM_cons]
    exact (h item).bind fun answer => ih.bind fun answers => outlasted_pure (answer :: answers)

/-- Tests of a list outlast each other when the tests of each item do. -/
theorem Outlasted.allM {f g : γ → Walk ε σ Bool} (h : ∀ item, Outlasted limit (f item) (g item))
    (items : List γ) : Outlasted limit (items.allM f) (items.allM g) := by
  induction items with
  | nil =>
    rw [List.allM_nil, List.allM_nil]
    exact outlasted_pure true
  | cons item items ih =>
    rw [List.allM_cons, List.allM_cons]
    refine (h item).bind fun passed => ?_
    cases passed with
    | true => exact ih
    | false => exact outlasted_pure false

end Walk

variable {ε σ ν α : Type} {forest : Forest ε σ ν} {lower higher : Settings}

/-! ## Folds -/

namespace Fold

/-- Results are combined under any limit. -/
theorem outlasted_combine {limit : Nat} (algebra : Algebra ε σ α) (layer : Layer ν)
    (results : List α) :
    Walk.Outlasted limit (combine algebra layer results) (combine algebra layer results) := by
  rw [combine]
  cases layer.refill results with
  | none => exact Walk.outlasted_of_not_hitsLimit nofun
  | some filled => exact Walk.outlasted_lift (algebra filled)

/-- A cycle is reported under any limit. -/
theorem outlasted_stop_cyclic {limit : Nat} (forest : Forest ε σ ν) (depth : Nat) :
    Walk.Outlasted limit
      (forest.stop (.cycleDetected depth) (.cyclic depth) : Walk ε σ α)
      (forest.stop (.cycleDetected depth) (.cyclic depth)) :=
  Walk.outlasted_of_not_hitsLimit nofun

variable [BEq ν] {algebra : Algebra ε σ α}

/-- A child is folded under a higher limit as it is under the lower one, unless that is hit. -/
theorem outlasted_visit (hd : lower.detectCycles = higher.detectCycles)
    (hm : lower.maxDepth ≤ higher.maxDepth) (path : List ν) (child : ν) :
    Walk.Outlasted lower.maxDepth (visit forest lower algebra path child)
      (visit forest higher algebra path child) := by
  -- the lower limit leaves one level less below a child than below its parent
  induction hl : lower.maxDepth - path.length generalizing path child with
  | zero =>
    rw [visit_of_length_le _ _ _ _ (Nat.le_of_sub_eq_zero hl), visit, ← hd]
    split
    · exact outlasted_stop_cyclic forest path.length
    · exact fun state => .stopped (forest.report _ state) _
  | succ levels ih =>
    have hlt : path.length < lower.maxDepth := Nat.lt_of_sub_eq_succ hl
    have hlt' : path.length < higher.maxDepth := Nat.lt_of_lt_of_le hlt hm
    rw [visit_of_length_lt _ _ _ _ hlt, visit_of_length_lt _ _ _ _ hlt', ← hd]
    split
    · exact outlasted_stop_cyclic forest path.length
    · refine (Walk.outlasted_lift (forest.produce child)).bind fun layer => ?_
      refine Walk.Outlasted.bind (.mapM (fun other => ?_) layer.payloads) fun results =>
        outlasted_combine algebra layer results
      refine ih (child :: path) other ?_
      rw [List.length_cons]
      omega

/-- A fold under a higher limit goes as it does under the lower one, unless that is hit. -/
theorem outlasted_fold [LawfulBEq ν] [Hashable ν] (hd : lower.detectCycles = higher.detectCycles)
    (hm : lower.maxDepth ≤ higher.maxDepth) (root : ν) :
    Walk.Outlasted lower.maxDepth (forest.fold lower algebra root)
      (forest.fold higher algebra root) := by
  rw [fold_eq_visit, fold_eq_visit]
  refine (Walk.outlasted_lift (forest.produce root)).bind fun layer => ?_
  exact Walk.Outlasted.bind (.mapM (outlasted_visit hd hm [root]) layer.payloads) fun results =>
    outlasted_combine algebra layer results

end Fold

/-! ## Comparisons -/

namespace Comparison

variable [BEq ν]

/-- Two nodes are compared with more levels left as they are with fewer, unless the fewer are too
few. -/
theorem outlasted_descend {levels levels' : Nat} (hl : levels ≤ levels') (left right : ν) :
    Walk.Outlasted lower.maxDepth (descend forest lower levels left right)
      (descend forest higher levels' left right) := by
  induction levels generalizing levels' left right with
  | zero =>
    by_cases hi : (left == right) = true
    · rw [descend_of_beq _ _ _ hi, descend_of_beq _ _ _ hi]
      exact Walk.outlasted_pure true
    · rw [descend, if_neg hi]
      exact fun state => .stopped (forest.report _ state) _
  | succ levels ih =>
    obtain ⟨others, rfl⟩ := Nat.exists_eq_add_of_le' hl
    rw [← Nat.add_assoc, descend, descend]
    split
    · exact Walk.outlasted_pure true
    refine (Walk.outlasted_lift (forest.produce left)).bind fun layer => ?_
    refine (Walk.outlasted_lift (forest.produce right)).bind fun other => ?_
    split
    · exact Walk.Outlasted.allM (fun pair : ν × ν => ih (Nat.le_add_left ..) pair.1 pair.2) _
    · exact Walk.outlasted_pure false

/-- A comparison under a higher limit goes as it does under the lower one, unless that is hit. -/
theorem outlasted_equal (hm : lower.maxDepth ≤ higher.maxDepth) (left right : ν) :
    Walk.Outlasted lower.maxDepth (forest.equal lower left right)
      (forest.equal higher left right) := by
  rw [equal_eq_descend, equal_eq_descend]
  exact outlasted_descend hm left right

end Comparison

section Observation

variable [DecidableEq ν] [Hashable ν]

/-- A fold that is observed hits the limit only if it does so unobserved. -/
theorem Forest.not_hitsLimit_fold_observed {settings : Settings} {algebra : Algebra ε σ α}
    {root : ν} {before : σ} (h : ¬Walk.HitsLimit (forest.fold settings algebra root before)) :
    ¬Walk.HitsLimit
      (forest.observed.fold settings algebra.observed root (.start before)) := by
  have ha := forest.alike_fold_observed settings algebra root (.start before) before rfl
  rintro ⟨limit, after, he⟩
  rw [he] at ha
  obtain ⟨last, hp, -⟩ := ha.exists_error
  exact h ⟨limit, last, hp⟩

/-- A walk that the depth guard does not stop comes to the same, after the same events, under every
higher limit; so one that hits the higher limit is stopped at the lower one, too. -/
theorem Forest.walks_under_raised_limit (forest : Forest ε σ ν)
    (hd : lower.detectCycles = higher.detectCycles) (hm : lower.maxDepth ≤ higher.maxDepth)
    (before : σ) :
    (∀ (α : Type) (algebra : Algebra ε σ α) (root : ν),
      (¬Walk.HitsLimit (forest.fold lower algebra root before) →
        forest.fold higher algebra root before = forest.fold lower algebra root before ∧
        forest.observed.fold higher algebra.observed root (.start before) =
          forest.observed.fold lower algebra.observed root (.start before)) ∧
      (Walk.HitsLimit (forest.fold higher algebra root before) →
        ∃ after, forest.fold lower algebra root before =
          .error (.tooDeep lower.maxDepth) after)) ∧
    ∀ left right : ν,
      (¬Walk.HitsLimit (forest.equal lower left right before) →
        forest.equal higher left right before = forest.equal lower left right before) ∧
      (Walk.HitsLimit (forest.equal higher left right before) →
        ∃ after, forest.equal lower left right before =
          .error (.tooDeep lower.maxDepth) after) := by
  refine ⟨fun α algebra root => ?_, fun left right => ?_⟩
  · have hfold : Walk.Outlasted lower.maxDepth (forest.fold lower algebra root)
        (forest.fold higher algebra root) := Fold.outlasted_fold hd hm root
    have hobserved : Walk.Outlasted lower.maxDepth
        (forest.observed.fold lower algebra.observed root)
        (forest.observed.fold higher algebra.observed root) := Fold.outlasted_fold hd hm root
    refine ⟨fun hn => ⟨(hfold before).eq_of_not_hitsLimit hn, ?_⟩,
      (hfold before).exists_error_of_hitsLimit⟩
    exact (hobserved _).eq_of_not_hitsLimit (not_hitsLimit_fold_observed hn)
  · have hequal : Walk.Outlasted lower.maxDepth (forest.equal lower left right)
        (forest.equal higher left right) := Comparison.outlasted_equal hm left right
    exact ⟨(hequal before).eq_of_not_hitsLimit, (hequal before).exists_error_of_hitsLimit⟩

end Observation

/-- A block with a member that refuses to reveal its layer, before one that is its own value. -/
def sealedAndLoop : Fin 4 → EStateM String (List Notice) (Layer (Fin 4))
  | 0 => pure (.group 1 [2, 3])
  | 1 => pure (.var "x")
  | 2 => throw "sealed"
  | 3 => pure (.assign "y" 3)

/-- The block is refused under limits of two and of nine after the same events, and differs from its
label under both; the loop hits both limits. -/
theorem Forest.sealedAndLoop_under_raised_limit :
    let forest : Forest String (List Notice) (Fin 4) :=
      ⟨sealedAndLoop, fun notice notices => notices ++ [notice]⟩
    let lower : Settings := { maxDepth := 2, detectCycles := false }
    let higher : Settings := { maxDepth := 9, detectCycles := false }
    let count : Algebra String (List Notice) Nat := .ofPure Algebra.count
    forest.observed.fold higher count.observed 0 (.start []) =
        .error (.raised "sealed") ⟨[], [.asked 0, .asked 1, .given (.var "x"), .asked 2]⟩ ∧
      (∃ after, forest.fold lower count 3 [] = .error (.tooDeep 2) after) ∧
      ∃ after, forest.equal higher 0 1 [] = .ok false after := by
  intro forest lower higher count
  obtain ⟨hfold, hequal⟩ := forest.walks_under_raised_limit
    (show lower.detectCycles = higher.detectCycles from rfl)
    (show lower.maxDepth ≤ higher.maxDepth by decide) []
  refine ⟨?_, (hfold Nat count 3).2 ?_, ?_⟩
  · have hn : ¬Walk.HitsLimit (forest.fold lower count 0 []) := by
      rw [Fold.fold_eq_descend]
      rintro ⟨limit, after, h⟩
      cases h
    rw [((hfold Nat count 0).1 hn).2, Fold.fold_eq_descend]
    rfl
  · rw [Fold.fold_eq_descend]
    exact ⟨9, _, rfl⟩
  · have hlower : ∃ after, forest.equal lower 0 1 [] = .ok false after := by
      rw [Comparison.equal_eq_descend]
      exact ⟨_, rfl⟩
    obtain ⟨after, hlower⟩ := hlower
    rw [(hequal 0 1).1 (by rw [hlower]; exact nofun)]
    exact ⟨after, hlower⟩

end LayeredTree
