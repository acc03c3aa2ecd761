import LayeredTree.Proofs.Comparison.Refinement
import LayeredTree.Proofs.Purity

/-!
# The comparison is a substitutive equivalence

Where nodes of a pure forest give the same nodes each time, a comparison has one of three outcomes,
whenever it is made: yes, no, or stopped by the depth guard. The outcome does not depend on the
order of the two nodes, and two nodes that compare equal have one outcome with any third node, also
where that is to be stopped. Identical nodes are passed over in one of the comparisons and not in
the other; what is passed over is equal within the same levels, so that it neither differs nor is
too deep in the other comparison.
-/

universe u

namespace LayeredTree

variable {ε σ ν : Type} {forest : Forest ε σ ν} {view : ν → Layer ν}

/-- Every node stands for itself and for nothing else, so that it gives the same nodes each time. -/
def Forest.Interpretation.Rigid (meaning : forest.Interpretation view) : Prop :=
  ∀ state node tree, meaning.stands state node tree → node = tree

/-- Revealing a node gives its layer in the view, and the nodes of that layer stand for
themselves. -/
theorem Forest.Interpretation.Rigid.exists_reveal {meaning : forest.Interpretation view}
    (hr : meaning.Rigid) {before : σ} {node : ν} (h : meaning.stands before node node) :
    ∃ after, forest.reveal node before = .ok (view node) after ∧
      Keeps meaning.stands before after ∧
      ∀ child ∈ (view node).payloads, meaning.stands after child child := by
  obtain ⟨layer, after, hreveal, -, hl, hk⟩ := meaning.exists_reveal_eq_ok h
  obtain rfl : layer = view node := Layer.rel_eq_iff.1 (hl.imp fun _ _ hs => hr _ _ _ hs)
  exact ⟨after, hreveal, hk, List.forall₂_same.1 hl.payloads⟩

namespace Comparison

/-- The outcome of comparing two nodes with `levels` more levels within the bound. There is no
verdict where the depth guard stops the comparison. -/
def verdict [BEq ν] (view : ν → Layer ν) : Nat → ν → ν → Option Bool
  | 0, left, right => if left == right then some true else none
  | levels + 1, left, right =>
    if left == right then some true
    else if (view left).sameShape (view right) then
      ((view left).payloads.zip (view right).payloads).allM fun (l, r) => verdict view levels l r
    else some false

/-! ## Verdicts about several items -/

section Items

variable {ι : Type u} {verdictOf : ι → Option Bool}

/-- The verdict about several items is yes exactly when it is yes about each. -/
theorem allM_eq_some_true_iff {items : List ι} :
    items.allM verdictOf = some true ↔ ∀ item ∈ items, verdictOf item = some true := by
  induction items with
  | nil => exact iff_of_true rfl fun _ hm => absurd hm List.not_mem_nil
  | cons item items ih =>
    rw [List.allM_cons, List.forall_mem_cons]
    cases hv : verdictOf item with
    | none => exact iff_of_false nofun fun h => nomatch h.1
    | some equal =>
      cases equal with
      | true => exact ih.trans (and_iff_right rfl).symm
      | false => exact iff_of_false nofun fun h => nomatch h.1

/-- A test of several items ends with the verdict about all of them when the test of each item ends
with the verdict about that item, and a test without a verdict fails for one and the same cause. -/
theorem ends_allM {stands : σ → ν → ν → Prop} {f : ι → EStateM ε σ Bool} {stop : ε}
    {items : List ι} {before : σ}
    (h : ∀ item ∈ items, ∀ between, Keeps stands before between →
      Walk.Ends stands (fun answer _ => verdictOf item = some answer)
        (fun cause => verdictOf item = none ∧ cause = stop) between (f item between)) :
    Walk.Ends stands (fun answer _ => items.allM verdictOf = some answer)
      (fun cause => items.allM verdictOf = none ∧ cause = stop) before (items.allM f before) := by
  induction items generalizing before with
  | nil => exact Walk.ends_pure rfl
  | cons item items ih =>
    have hitem := h item List.mem_cons_self before (.refl _ _)
    rw [List.allM_cons, List.allM_cons]
    generalize verdictOf item = found at hitem ⊢
    cases found with
    | none =>
      have hstop : Walk.Ends stands (fun _ _ => False) (fun cause => none = none ∧ cause = stop)
          before (f item before) := hitem.imp nofun fun _ hc => hc
      exact hstop.bind fun _ _ _ => False.elim
    | some equal =>
      have hfound : Walk.Ends stands (fun answer _ => equal = answer)
          (fun cause => (if equal then items.allM verdictOf else some false) = none ∧ cause = stop)
          before (f item before) := hitem.imp (fun _ _ => Option.some.inj) nofun
      refine hfound.bind fun answer between hk he => ?_
      subst he
      cases equal with
      | true =>
        exact ih fun other hm later hl =>
          h other (List.mem_cons_of_mem _ hm) later (hk.trans hl)
      | false => exact Walk.ends_pure rfl

end Items

/-- Pairs with a list may be tested through another list whose items behave alike. -/
theorem allM_zip_congr {verdictOf : ν × ν → Option Bool} {xs ys : List ν}
    (h : List.Forall₂ (fun x y => ∀ z, verdictOf (x, z) = verdictOf (y, z)) xs ys) (zs : List ν) :
    (xs.zip zs).allM verdictOf = (ys.zip zs).allM verdictOf := by
  induction h generalizing zs with
  | nil => rfl
  | @cons x y xs ys head _ ih =>
    cases zs with
    | nil => rfl
    | cons z zs =>
      rw [List.zip_cons_cons, List.zip_cons_cons, List.allM_cons, List.allM_cons, head z, ih zs]

/-- Pairs may be turned round when the verdict about a pair does not change with that. -/
theorem allM_zip_comm {verdictOf : ν × ν → Option Bool}
    (h : ∀ x y, verdictOf (x, y) = verdictOf (y, x)) (xs ys : List ν) :
    (xs.zip ys).allM verdictOf = (ys.zip xs).allM verdictOf := by
  induction xs generalizing ys with
  | nil => rw [List.zip_nil_left, List.zip_nil_right]
  | cons x xs ih =>
    cases ys with
    | nil => rfl
    | cons y ys =>
      rw [List.zip_cons_cons, List.zip_cons_cons, List.allM_cons, List.allM_cons, h x y, ih ys]

/-! ## Verdicts about two nodes -/

section Laws

variable [BEq ν] [LawfulBEq ν]

/-- Nodes are equal to themselves at any depth. -/
theorem verdict_self (view : ν → Layer ν) (levels : Nat) (node : ν) :
    verdict view levels node node = some true := by
  cases levels with
  | zero => rw [verdict, if_pos BEq.rfl]
  | succ levels => rw [verdict, if_pos BEq.rfl]

/-- With no level left, there is no verdict about different nodes. -/
theorem verdict_zero_of_ne {left right : ν} (hn : left ≠ right) :
    verdict view 0 left right = none := by
  have hb : ¬(left == right) = true := fun h => hn (eq_of_beq h)
  rw [verdict, if_neg hb]

/-- The verdict about different nodes looks at their shapes and then at their children. -/
theorem verdict_of_ne {left right : ν} (hn : left ≠ right) (levels : Nat) :
    verdict view (levels + 1) left right =
      if (view left).sameShape (view right) then
        ((view left).payloads.zip (view right).payloads).allM fun (l, r) => verdict view levels l r
      else some false := by
  have hb : ¬(left == right) = true := fun h => hn (eq_of_beq h)
  rw [verdict, if_neg hb]

/-- The verdict does not depend on the order of the two nodes. -/
theorem verdict_comm (levels : Nat) (left right : ν) :
    verdict view levels left right = verdict view levels right left := by
  induction levels generalizing left right with
  | zero => rw [verdict, verdict, BEq.comm]
  | succ levels ih =>
    by_cases hn : left = right
    · rw [hn]
    have hs : (view left).sameShape (view right) = (view right).sameShape (view left) := by
      rw [Bool.eq_iff_iff, Layer.sameShape_iff, Layer.sameShape_iff]
      exact eq_comm
    rw [verdict_of_ne hn, verdict_of_ne (Ne.symm hn), hs]
    split
    · exact allM_zip_comm (fun l r => ih l r) _ _
    · rfl

/-- Different nodes with a positive verdict have layers of one shape, and a positive verdict about
the children in each place. -/
theorem rel_of_verdict_succ {levels : Nat} {left right : ν} (hn : left ≠ right)
    (h : verdict view (levels + 1) left right = some true) :
    Layer.Rel (fun l r => verdict view levels l r = some true) (view left) (view right) := by
  rw [verdict_of_ne hn] at h
  split at h
  case isTrue hs =>
    have he := Layer.sameShape_iff.1 hs
    refine .of_payloads he (List.forall₂_iff_zip.2 ⟨Layer.length_payloads_of_shape he, ?_⟩)
    intro l r hm
    exact allM_eq_some_true_iff.1 h (l, r) hm
  case isFalse => cases h

/-- Nodes with a positive verdict have one verdict with any third node, within the same levels. -/
theorem verdict_congr {levels : Nat} {left right : ν}
    (h : verdict view levels left right = some true) (other : ν) :
    verdict view levels left other = verdict view levels right other := by
  induction levels generalizing left right other with
  | zero =>
    by_cases hn : left = right
    · rw [hn]
    · rw [verdict_zero_of_ne hn] at h
      cases h
  | succ levels ih =>
    by_cases hn : left = right
    · rw [hn]
    -- one of the nodes may be the third one, which is then passed over on that side only
    by_cases hl : left = other
    · rw [← hl, verdict_self, verdict_comm, h]
    by_cases hr : right = other
    · rw [← hr, verdict_self, h]
    have hrel := rel_of_verdict_succ hn h
    have hs : (view left).sameShape (view other) = (view right).sameShape (view other) := by
      rw [Bool.eq_iff_iff, Layer.sameShape_iff, Layer.sameShape_iff, hrel.shape_eq]
    rw [verdict_of_ne hl, verdict_of_ne hr, hs]
    split
    · exact allM_zip_congr (hrel.payloads.imp fun l r hv z => ih hv z) _
    · rfl

/-! ## The comparison and the verdict -/

variable {meaning : forest.Interpretation view}

/-- The recursive comparison ends with the verdict, or is stopped where there is none. -/
theorem ends_descend_verdict (hrigid : meaning.Rigid) (settings : Settings) (levels : Nat)
    {before : σ} {left right : ν} (hl : meaning.stands before left left)
    (hr : meaning.stands before right right) :
    Walk.Ends meaning.stands (fun equal _ => verdict view levels left right = some equal)
      (fun reason => verdict view levels left right = none ∧ reason = .tooDeep settings.maxDepth)
      before (descend forest settings levels left right before) := by
  induction levels generalizing before left right with
  | zero =>
    by_cases hi : left = right
    · subst hi
      rw [descend_of_beq _ _ _ BEq.rfl, verdict_self]
      exact Walk.ends_pure rfl
    · have hb : ¬(left == right) = true := fun h => hi (eq_of_beq h)
      rw [descend, if_neg hb, verdict_zero_of_ne hi]
      exact .error ⟨rfl, rfl⟩
  | succ levels ih =>
    by_cases hi : left = right
    · subst hi
      rw [descend_of_beq _ _ _ BEq.rfl, verdict_self]
      exact Walk.ends_pure rfl
    have hb : ¬(left == right) = true := fun h => hi (eq_of_beq h)
    obtain ⟨between, hrl, hkl, hcl⟩ := hrigid.exists_reveal hl
    obtain ⟨later, hrr, hkr, hcr⟩ := hrigid.exists_reveal (hkl _ _ hr)
    rw [descend, if_neg hb, Walk.bind_of_ok hrl, Walk.bind_of_ok hrr, verdict_of_ne hi]
    refine .of_keeps (hkl.trans hkr) ?_
    split
    · refine ends_allM fun pair hm last hk => ?_
      obtain ⟨hml, hmr⟩ := List.of_mem_zip hm
      exact ih (hk _ _ (hkr _ _ (hcl _ hml))) (hk _ _ (hcr _ hmr))
    · exact Walk.ends_pure rfl

/-- What a comparison comes to according to a verdict. -/
def announced (settings : Settings) : Option Bool → Except (Interruption ε) Bool
  | some equal => .ok equal
  | none => .error (.tooDeep settings.maxDepth)

/-- The outcome of a comparison is the verdict within the depth bound, whenever it is made. -/
theorem outcome_equal (hrigid : meaning.Rigid) (settings : Settings) {before : σ} {left right : ν}
    (hl : meaning.stands before left left) (hr : meaning.stands before right right) :
    Walk.outcome (forest.equal settings left right before) =
      announced settings (verdict view settings.maxDepth left right) := by
  have he := ends_descend_verdict hrigid settings settings.maxDepth hl hr
  rw [equal_eq_descend]
  generalize descend forest settings settings.maxDepth left right before = result at he
  cases he with
  | ok keeps holds => rw [holds]; rfl
  | error holds => rw [holds.1, holds.2]; rfl

theorem announced_eq_ok_iff {settings : Settings} {found : Option Bool} {equal : Bool} :
    (announced settings found : Except (Interruption ε) Bool) = .ok equal ↔ found = some equal := by
  cases found with
  | none => exact iff_of_false nofun nofun
  | some other => rw [announced, Except.ok.injEq, Option.some.injEq]

end Laws

end Comparison

variable [BEq ν] [LawfulBEq ν]

/-- In a rigid pure forest comparisons are decided or stopped by the depth guard, symmetric, and the
same for nodes that compare equal; so equality passes on from one pair of nodes to the next. -/
theorem Forest.equal_substitutive {meaning : forest.Interpretation view} (hrigid : meaning.Rigid)
    (settings : Settings) {a b c : ν} {s t u : σ}
    (hs : ∀ node ∈ [a, b, c], meaning.stands s node node)
    (ht : ∀ node ∈ [a, b, c], meaning.stands t node node)
    (hu : ∀ node ∈ [a, b, c], meaning.stands u node node) :
    Walk.outcome (forest.equal settings a b s) ∈
        [.ok true, .ok false, .error (.tooDeep settings.maxDepth)] ∧
      Walk.outcome (forest.equal settings a b s) = Walk.outcome (forest.equal settings b a t) ∧
      (Walk.outcome (forest.equal settings a b s) = .ok true →
        Walk.outcome (forest.equal settings a c t) = Walk.outcome (forest.equal settings b c u)) ∧
      (Walk.outcome (forest.equal settings a b s) = .ok true →
        Walk.outcome (forest.equal settings b c t) = .ok true →
        Walk.outcome (forest.equal settings a c u) = .ok true) := by
  simp only [List.forall_mem_cons, List.not_mem_nil, false_implies, implies_true, and_true]
    at hs ht hu
  obtain ⟨has, hbs, -⟩ := hs
  obtain ⟨hat, hbt, hct⟩ := ht
  obtain ⟨hau, hbu, hcu⟩ := hu
  rw [Comparison.outcome_equal hrigid settings has hbs,
    Comparison.outcome_equal hrigid settings hbt hat,
    Comparison.outcome_equal hrigid settings hat hct,
    Comparison.outcome_equal hrigid settings hbt hct,
    Comparison.outcome_equal hrigid settings hau hcu,
    Comparison.outcome_equal hrigid settings hbu hcu]
  refine ⟨?_, ?_, fun hab => ?_, fun hab hbc => ?_⟩
  · cases Comparison.verdict view settings.maxDepth a b with
    | none => exact List.mem_cons_of_mem _ (List.mem_cons_of_mem _ List.mem_cons_self)
    | some equal =>
      cases equal with
      | true => exact List.mem_cons_self
      | false => exact List.mem_cons_of_mem _ List.mem_cons_self
  · rw [Comparison.verdict_comm]
  · rw [Comparison.verdict_congr (Comparison.announced_eq_ok_iff.1 hab) c]
  · rw [Comparison.verdict_congr (Comparison.announced_eq_ok_iff.1 hab) c]
    exact hbc

/-- An assignment below itself, one that has the first for its value, and endlessly many more. -/
def loopAndChain : Nat → Layer Nat
  | 0 => .assign "x" 0
  | 1 => .assign "x" 0
  | node => .assign "x" (node + 1)

/-- The first two nodes compare equal, since their values are one node. Compared with the endless
chain, both are too deep. The state counts the questions to nodes. -/
theorem Forest.equal_loopAndChain :
    let forest : Forest Empty Nat Nat :=
      ⟨fun node asked => .ok (loopAndChain node) (asked + 1), fun _ asked => asked⟩
    Walk.outcome (forest.equal { maxDepth := 3 } 0 1 0) = .ok true ∧
      Walk.outcome (forest.equal { maxDepth := 3 } 1 2 8) = .error (.tooDeep 3) := by
  intro forest
  let meaning : forest.Interpretation loopAndChain :=
    { stands := fun _ node tree => node = tree
      reveals := by
        rintro before node _ rfl
        exact ⟨loopAndChain node, before + 1, rfl, Layer.rel_eq_iff.2 rfl, fun _ _ h => h⟩ }
  have hrigid : meaning.Rigid := fun _ _ _ h => h
  have hall (asked : Nat) : ∀ node ∈ [0, 1, 2], meaning.stands asked node node := fun _ _ => rfl
  have heq : Walk.outcome (forest.equal { maxDepth := 3 } 0 1 0) = .ok true := by
    rw [Comparison.equal_eq_descend]
    rfl
  have hdeep : Walk.outcome (forest.equal { maxDepth := 3 } 0 2 2) = .error (.tooDeep 3) := by
    rw [Comparison.equal_eq_descend]
    rfl
  obtain ⟨-, -, hsub, -⟩ :=
    Forest.equal_substitutive hrigid { maxDepth := 3 } (hall 0) (hall 2) (hall 8)
  exact ⟨heq, (hsub heq).symm.trans hdeep⟩

end LayeredTree
