import LayeredTree.Proofs.Walk
import LayeredTree.Recursive

/-!
# The comparison on a list of pairs is the recursive comparison

The pending pairs of the loop stand for a test of one pair after the other, each by the recursive
comparison from its own depth on, until one of them fails. A step of the loop performs the first
part of that test: the children of a pair take its place in the list, in their order, and so are
tested before the pairs that were pending with it.
-/

namespace LayeredTree.Comparison

variable {ε σ ν : Type}

/-- A test of two lists, one after the other, stops at the first failure in either. -/
theorem allM_append {ι : Type} (test : ι → Walk ε σ Bool) (front back : List ι) :
    (front ++ back).allM test = (do
      if ← front.allM test then back.allM test else return false) := by
  induction front with
  | nil => rw [List.nil_append, List.allM_nil, pure_bind, if_pos rfl]
  | cons item front ih =>
    rw [List.cons_append, List.allM_cons, List.allM_cons, bind_assoc]
    refine bind_congr fun passed => ?_
    cases passed with
    | true => simpa using ih
    | false => simp

/-- Tests of the items that a function gives are tests of the items that it is given. -/
theorem allM_map {ι κ : Type} (test : κ → Walk ε σ Bool) (f : ι → κ) (items : List ι) :
    (items.map f).allM test = items.allM fun item => test (f item) := by
  induction items with
  | nil => rfl
  | cons item items ih => rw [List.map_cons, List.allM_cons, List.allM_cons, ih]

variable [BEq ν] (forest : Forest ε σ ν) (settings : Settings)

/-- Identical nodes are equal at any depth. -/
theorem descend_of_beq (levels : Nat) {left right : ν} (h : (left == right) = true) :
    descend forest settings levels left right = return true := by
  cases levels with
  | zero => rw [descend, if_pos h]
  | succ levels => rw [descend, if_pos h]

/-- What pending pairs stand for: each is compared in turn, until two nodes differ. -/
def resume (pending : List (Pair ν)) : Walk ε σ Bool :=
  pending.allM fun pair =>
    descend forest settings (settings.maxDepth + 1 - pair.depth) pair.left pair.right

/-- The children of two layers stand for the tests of their pairs, one level further down. -/
theorem resume_children (depth : Nat) (left right : Layer ν) :
    resume forest settings (children (depth + 1) left right) =
      (left.payloads.zip right.payloads).allM fun (l, r) =>
        descend forest settings (settings.maxDepth - depth) l r := by
  have hc : children (depth + 1) left right =
      (left.payloads.zip right.payloads).map fun pair => ⟨pair.1, pair.2, depth + 1⟩ := by
    rw [List.map_zip_eq_zipWith]
    rfl
  rw [resume, hc, allM_map, ← Nat.add_sub_add_right settings.maxDepth 1 depth]

/-- What is left to do after a step. -/
def Progress.resume : Progress ν → Walk ε σ Bool
  | .running pending => Comparison.resume forest settings pending
  | .finished equal => return equal

/-- A step does the first part of what pending pairs stand for, and leaves the rest. -/
theorem resume_eq_step_bind (pending : List (Pair ν)) :
    resume forest settings pending =
      step forest settings pending >>= Progress.resume forest settings := by
  cases pending with
  | nil =>
    rw [resume, step, pure_bind]
    rfl
  | cons pair pending =>
    rw [resume, List.allM_cons, step]
    by_cases hi : (pair.left == pair.right) = true
    · rw [descend_of_beq _ _ _ hi, if_pos hi, pure_bind, pure_bind, if_pos rfl]
      rfl
    by_cases hd : settings.maxDepth < pair.depth
    · rw [Nat.sub_eq_zero_of_le hd, descend, if_neg hi, if_neg hi, if_pos hd]
      rfl
    · rw [if_neg hi, if_neg hd, Nat.succ_sub (Nat.le_of_not_lt hd), descend, if_neg hi]
      simp only [bind_assoc]
      refine bind_congr fun left => bind_congr fun right => ?_
      by_cases hs : left.sameShape right = true
      · rw [if_pos hs, if_pos hs, pure_bind, Progress.resume, resume, allM_append]
        rw [← resume_children forest settings pair.depth left right]
        rfl
      · rw [if_neg hs, if_neg hs, pure_bind, pure_bind]
        rfl

/-- The loop takes a step and goes on. -/
theorem run_eq_step_bind (pending : List (Pair ν)) :
    run forest settings pending =
      step forest settings pending >>= fun
        | .running next => run forest settings next
        | .finished equal => return equal := by
  funext state
  rw [run]
  split
  case h_1 h => rw [Walk.bind_of_ok h]
  case h_2 h => rw [Walk.bind_of_ok h]; rfl
  case h_3 h => rw [Walk.bind_of_error h]

/-- The loop does what the pending pairs stand for. -/
theorem run_eq_resume (pending : List (Pair ν)) (state : σ) :
    run forest settings pending state = resume forest settings pending state := by
  induction pending, state using run.induct forest settings with
  | case1 pending state next after h ih =>
    rw [run_eq_step_bind, resume_eq_step_bind, Walk.bind_of_ok h, Walk.bind_of_ok h]
    exact ih
  | case2 pending state equal after h =>
    rw [run_eq_step_bind, resume_eq_step_bind, Walk.bind_of_ok h, Walk.bind_of_ok h]
    rfl
  | case3 pending state reason after h =>
    rw [run_eq_step_bind, resume_eq_step_bind, Walk.bind_of_error h, Walk.bind_of_error h]

/-- The comparison on a list of pairs is the recursive comparison. -/
theorem equal_eq_descend (left right : ν) :
    forest.equal settings left right =
      descend forest settings settings.maxDepth left right := by
  have hp : ∀ same : Bool,
      (if same = true then return true else return false : Walk ε σ Bool) = return same := by
    intro same
    cases same <;> rfl
  funext state
  rw [Forest.equal, run_eq_resume, resume, List.allM_cons, Nat.add_sub_cancel]
  simp only [List.allM_nil, hp, bind_pure]

end LayeredTree.Comparison
