import LayeredTree.Proofs.Layer.Traversal
import LayeredTree.Proofs.Walk
import LayeredTree.Recursive
import Mathlib.Data.List.Nodup

/-!
# The fold on a stack is the recursive fold

A stack stands for a computation: the frame on top still has to fold its pending children and to
combine all results, and then each frame below goes on with the result handed down to it. A step
of the loop performs the first action of that computation and leaves the rest of it to the next
stack, as long as the depth and the ancestors kept in the stack are those of its frames. So the
loop does what the recursion does, in the same order, for every forest and every algebra.
-/

namespace LayeredTree.Fold

variable {ε σ α ν : Type}

/-- Combine one result for each payload of a layer. -/
def combine (algebra : Algebra ε σ α) (layer : Layer ν) (results : List α) : Walk ε σ α :=
  (layer.refill results).elim (throw .starved) fun filled => Forest.lift (algebra filled)

/-- Collapsing a frame combines its results in the order in which the children were folded. -/
theorem collapse_eq_combine (algebra : Algebra ε σ α) (frame : Frame ν α) :
    collapse algebra frame = combine algebra frame.layer frame.results.reverse := by
  unfold collapse combine
  cases frame.layer.refill frame.results.reverse <;> rfl

section Recursion

variable [BEq ν] (forest : Forest ε σ ν) (settings : Settings) (algebra : Algebra ε σ α)

/-- Fold a child of the node at the head of a path, once the cycle guard has let it pass. -/
def visit (path : List ν) (child : ν) : Walk ε σ α :=
  if settings.detectCycles && path.contains child then
    forest.stop (.cycleDetected path.length) (.cyclic path.length)
  else descend forest settings algebra (settings.maxDepth - path.length) path child

/-- Within the bound, a node reveals its layer once, folds its children and combines. -/
theorem descend_succ (levels : Nat) (path : List ν) (node : ν)
    (hl : settings.maxDepth - path.length = levels + 1) :
    descend forest settings algebra (levels + 1) path node = (do
      let layer ← forest.reveal node
      let results ← layer.payloads.mapM (visit forest settings algebra (node :: path))
      combine algebra layer results) := by
  have hn : settings.maxDepth - (node :: path).length = levels := by
    rw [List.length_cons]
    omega
  have hv : visit forest settings algebra (node :: path) = fun child =>
      if settings.detectCycles && (node :: path).contains child then
        forest.stop (.cycleDetected (path.length + 1)) (.cyclic (path.length + 1))
      else descend forest settings algebra levels (node :: path) child := by
    funext child
    rw [visit, hn, List.length_cons]
  rw [descend, hv]
  exact bind_congr fun layer => Layer.traverse_bind layer _ (throw Interruption.starved) _

/-- A child below the bound stops the fold, unless it closes a cycle. -/
theorem visit_of_length_le {path : List ν} (child : ν) (h : settings.maxDepth ≤ path.length) :
    visit forest settings algebra path child =
      if settings.detectCycles && path.contains child then
        forest.stop (.cycleDetected path.length) (.cyclic path.length)
      else forest.stop (.foldLimitReached settings.maxDepth) (.tooDeep settings.maxDepth) := by
  rw [visit, Nat.sub_eq_zero_of_le h, descend]

/-- A child within the bound is folded in turn, unless it closes a cycle. -/
theorem visit_of_length_lt {path : List ν} (child : ν) (h : path.length < settings.maxDepth) :
    visit forest settings algebra path child =
      if settings.detectCycles && path.contains child then
        forest.stop (.cycleDetected path.length) (.cyclic path.length)
      else (do
        let layer ← forest.reveal child
        let results ← layer.payloads.mapM (visit forest settings algebra (child :: path))
        combine algebra layer results) := by
  obtain ⟨levels, hl⟩ : ∃ levels, settings.maxDepth - path.length = levels + 1 :=
    Nat.exists_eq_succ_of_ne_zero (by omega)
  rw [visit, hl, descend_succ forest settings algebra levels path child hl]

/-- Hand a result down to the frames that wait for it, the nearest first: each folds its pending
children, combines all its results and hands that down in turn. -/
def deliver : List (Frame ν α) → α → Walk ε σ α
  | [], value => return value
  | parent :: below, value => do
    let path := (parent :: below).map Frame.node
    let rest ← parent.pending.mapM (visit forest settings algebra path)
    let value ← combine algebra parent.layer ((value :: parent.results).reverse ++ rest)
    deliver below value

/-- What is still to do for a frame and the frames below it. -/
def resume (top : Frame ν α) (below : List (Frame ν α)) : Walk ε σ α := do
  let path := (top :: below).map Frame.node
  let rest ← top.pending.mapM (visit forest settings algebra path)
  let value ← combine algebra top.layer (top.results.reverse ++ rest)
  deliver forest settings algebra below value

end Recursion

section Loop

variable [BEq ν] [Hashable ν]

/-- The nodes on the path to the node in work, the nearest first. -/
def Stack.path (stack : Stack ν α) : List ν := (stack.top :: stack.below).map Frame.node

@[simp] theorem Stack.path_root (settings : Settings) (node : ν) (layer : Layer ν) :
    (Stack.root settings node layer : Stack ν α).path = [node] := rfl

@[simp] theorem Stack.path_push (settings : Settings) (stack : Stack ν α) (pending : List ν)
    (child : ν) (layer : Layer ν) :
    (stack.push settings pending child layer).path = child :: stack.path := rfl

/-- Handing a result down takes the top node off the path. -/
theorem Stack.path_eq_cons_pop {stack : Stack ν α} {parent : Frame ν α}
    {below : List (Frame ν α)} (hb : stack.below = parent :: below) (settings : Settings)
    (value : α) : stack.path = stack.top.node :: (stack.pop settings parent below value).path := by
  rw [path, hb]
  rfl

/-- The depth and the ancestors that a stack keeps are those of its frames, and the path to the
node in work is within the bound and, where cycles are detected, without repetition. -/
structure Stack.Faithful (settings : Settings) (stack : Stack ν α) : Prop where
  /-- The depth is the number of nodes on the path. -/
  depth_eq : stack.depth = stack.path.length
  /-- The path is within the bound. -/
  depth_le : stack.path.length ≤ settings.maxDepth
  /-- The ancestors are the nodes on the path. -/
  contains_ancestors : settings.detectCycles = true →
    ∀ node, stack.ancestors.contains node = stack.path.contains node
  /-- No node is on the path twice. -/
  nodup_path : settings.detectCycles = true → stack.path.Nodup

/-- The guards of a step are those of a visit. -/
theorem Stack.Faithful.guard_eq {settings : Settings} {stack : Stack ν α}
    (hf : stack.Faithful settings) (child : ν) :
    (settings.detectCycles && stack.ancestors.contains child) =
      (settings.detectCycles && stack.path.contains child) := by
  cases hdc : settings.detectCycles with
  | false => rfl
  | true => rw [hf.contains_ancestors hdc]

/-- A step that does not finish the fold either goes down into the next child, when both guards let
it pass and it reveals its layer, or collapses the frame on top and hands the result down. -/
theorem step_eq_running_iff {forest : Forest ε σ ν} {settings : Settings} {algebra : Algebra ε σ α}
    {stack next : Stack ν α} {before after : σ} :
    step forest settings algebra stack before = .ok (.running next) after ↔
      (∃ child pending layer, stack.top.pending = child :: pending ∧
        (settings.detectCycles && stack.ancestors.contains child) = false ∧
        stack.depth < settings.maxDepth ∧ forest.reveal child before = .ok layer after ∧
        next = stack.push settings pending child layer) ∨
      ∃ parent below value, stack.top.pending = [] ∧ stack.below = parent :: below ∧
        collapse algebra stack.top before = .ok value after ∧
        next = stack.pop settings parent below value := by
  constructor
  · intro h
    cases hp : stack.top.pending with
    | cons child pending =>
      simp only [step, hp] at h
      split at h
      · cases h
      next hc =>
      split at h
      · cases h
      next hd =>
      obtain ⟨layer, between, hr, h⟩ := Walk.exists_of_bind_eq_ok h
      cases h
      exact .inl ⟨child, pending, layer, rfl, Bool.eq_false_iff.2 hc, Nat.lt_of_not_le hd, hr, rfl⟩
    | nil =>
      simp only [step, hp] at h
      obtain ⟨value, between, hv, h⟩ := Walk.exists_of_bind_eq_ok h
      cases hb : stack.below with
      | nil =>
        rw [hb] at h
        cases h
      | cons parent below =>
        rw [hb] at h
        cases h
        exact .inr ⟨parent, below, value, rfl, rfl, hv, rfl⟩
  · rintro (⟨child, pending, layer, hp, hc, hd, hr, rfl⟩ | ⟨parent, below, value, hp, hb, hv, rfl⟩)
    · simp only [step, hp]
      rw [if_neg (Bool.eq_false_iff.1 hc), if_neg (Nat.not_le_of_lt hd), Walk.bind_of_ok hr]
      rfl
    · simp only [step, hp, hb]
      rw [Walk.bind_of_ok hv]
      rfl

/-- What is left to do after a step. -/
def Progress.resume (forest : Forest ε σ ν) (settings : Settings) (algebra : Algebra ε σ α) :
    Progress ν α → Walk ε σ α
  | .running stack => Fold.resume forest settings algebra stack.top stack.below
  | .finished value => return value

/-- A step does the first part of what a faithful stack stands for, and leaves the rest. -/
theorem resume_eq_step_bind (forest : Forest ε σ ν) (settings : Settings)
    (algebra : Algebra ε σ α) {stack : Stack ν α} (hf : stack.Faithful settings) :
    resume forest settings algebra stack.top stack.below =
      step forest settings algebra stack >>= Progress.resume forest settings algebra := by
  cases hp : stack.top.pending with
  | nil =>
    simp only [resume, step, hp, collapse_eq_combine, List.mapM_nil, pure_bind, List.append_nil,
      bind_assoc]
    refine bind_congr fun value => ?_
    cases stack.below <;> rfl
  | cons child pending =>
    have hd := hf.depth_eq
    simp only [resume, step, hp, List.mapM_cons, bind_assoc, pure_bind]
    rw [hf.guard_eq child, hd]
    show visit forest settings algebra stack.path child >>= _ = _
    by_cases hc : (settings.detectCycles && stack.path.contains child) = true
    · rw [visit, if_pos hc, if_pos hc]
      rfl
    by_cases hb : settings.maxDepth ≤ stack.path.length
    · rw [visit_of_length_le _ _ _ _ hb, if_neg hc, if_neg hc, if_pos hb]
      rfl
    · rw [visit_of_length_lt _ _ _ _ (Nat.lt_of_not_le hb), if_neg hc, if_neg hc, if_neg hb]
      simp only [bind_assoc, pure_bind]
      refine bind_congr fun layer => ?_
      simp only [Progress.resume, resume, deliver, Stack.push, Frame.enter, List.reverse_nil,
        List.nil_append, List.reverse_cons, List.append_assoc, List.singleton_append]
      rfl

/-- The loop takes a step and goes on. -/
theorem run_eq_step_bind (forest : Forest ε σ ν) (settings : Settings) (algebra : Algebra ε σ α)
    (stack : Stack ν α) :
    run forest settings algebra stack =
      step forest settings algebra stack >>= fun
        | .running next => run forest settings algebra next
        | .finished value => return value := by
  funext state
  rw [run]
  split
  case h_1 h => rw [Walk.bind_of_ok h]
  case h_2 h => rw [Walk.bind_of_ok h]; rfl
  case h_3 h => rw [Walk.bind_of_error h]

variable [LawfulBEq ν]

/-- The stack of the root alone is faithful. -/
theorem Stack.faithful_root (settings : Settings) (node : ν) (layer : Layer ν) :
    (Stack.root settings node layer : Stack ν α).Faithful settings where
  depth_eq := rfl
  depth_le := settings.maxDepth_pos
  contains_ancestors hc other := by
    have ha : (Stack.root settings node layer : Stack ν α).ancestors =
        Std.HashSet.emptyWithCapacity.insert node := if_pos hc
    rw [ha, Std.HashSet.contains_insert, Std.HashSet.contains_emptyWithCapacity,
      Stack.path_root, List.contains_cons, List.contains_nil, BEq.comm]
  nodup_path _ := List.nodup_singleton node

/-- Going down into a child that passes both guards keeps a stack faithful. -/
theorem Stack.Faithful.push {settings : Settings} {stack : Stack ν α}
    (hf : stack.Faithful settings) {child : ν}
    (hc : (settings.detectCycles && stack.ancestors.contains child) = false)
    (hd : stack.depth < settings.maxDepth) (pending : List ν) (layer : Layer ν) :
    (stack.push settings pending child layer).Faithful settings where
  depth_eq := congrArg (· + 1) hf.depth_eq
  depth_le := by
    rw [Stack.path_push, List.length_cons, ← hf.depth_eq]
    exact hd
  contains_ancestors hdc other := by
    have ha : (stack.push settings pending child layer).ancestors =
        stack.ancestors.insert child := if_pos hdc
    rw [ha, Std.HashSet.contains_insert, hf.contains_ancestors hdc, Stack.path_push,
      List.contains_cons, BEq.comm]
  nodup_path hdc := by
    rw [hdc, Bool.true_and, hf.contains_ancestors hdc] at hc
    rw [Stack.path_push, List.nodup_cons]
    exact ⟨by simpa using hc, hf.nodup_path hdc⟩

/-- Handing a result down to the frame below keeps a stack faithful. -/
theorem Stack.Faithful.pop {settings : Settings} {stack : Stack ν α}
    (hf : stack.Faithful settings) {parent : Frame ν α} {below : List (Frame ν α)}
    (hb : stack.below = parent :: below) (value : α) :
    (stack.pop settings parent below value).Faithful settings := by
  have hp := Stack.path_eq_cons_pop hb settings value
  have hl := congrArg List.length hp
  rw [List.length_cons] at hl
  refine ⟨?_, ?_, ?_, ?_⟩
  · show stack.depth - 1 = _
    rw [hf.depth_eq, hl, Nat.add_sub_cancel]
  · have hd := hf.depth_le
    omega
  · intro hdc other
    have hn := hf.nodup_path hdc
    have ha : (stack.pop settings parent below value).ancestors =
        stack.ancestors.erase stack.top.node := if_pos hdc
    rw [hp, List.nodup_cons] at hn
    rw [ha, Std.HashSet.contains_erase, hf.contains_ancestors hdc, hp, List.contains_cons]
    by_cases he : stack.top.node = other
    · subst he
      simpa using hn.1
    · have hl : (stack.top.node == other) = false := beq_eq_false_iff_ne.2 he
      have hr : (other == stack.top.node) = false := beq_eq_false_iff_ne.2 fun h => he h.symm
      rw [hl, hr, Bool.not_false, Bool.true_and, Bool.false_or]
  · intro hdc
    have hn := hf.nodup_path hdc
    rw [hp] at hn
    exact hn.of_cons

/-- A step keeps a stack faithful. -/
theorem Stack.Faithful.step {forest : Forest ε σ ν} {settings : Settings}
    {algebra : Algebra ε σ α} {stack next : Stack ν α} {before after : σ}
    (hf : stack.Faithful settings)
    (h : Fold.step forest settings algebra stack before = .ok (.running next) after) :
    next.Faithful settings := by
  rcases step_eq_running_iff.1 h with
    ⟨child, pending, layer, -, hc, hd, -, rfl⟩ | ⟨parent, below, value, -, hb, -, rfl⟩
  · exact hf.push hc hd pending layer
  · exact hf.pop hb value

/-- The loop does what a faithful stack stands for. -/
theorem run_eq_resume (forest : Forest ε σ ν) (settings : Settings) (algebra : Algebra ε σ α)
    {stack : Stack ν α} (hf : stack.Faithful settings) (state : σ) :
    run forest settings algebra stack state =
      resume forest settings algebra stack.top stack.below state := by
  induction stack, state using run.induct forest settings algebra with
  | case1 stack state next after h ih =>
    rw [run_eq_step_bind, resume_eq_step_bind _ _ _ hf, Walk.bind_of_ok h, Walk.bind_of_ok h]
    exact ih (hf.step h)
  | case2 stack state value after h =>
    rw [run_eq_step_bind, resume_eq_step_bind _ _ _ hf, Walk.bind_of_ok h, Walk.bind_of_ok h]
    rfl
  | case3 stack state reason after h =>
    rw [run_eq_step_bind, resume_eq_step_bind _ _ _ hf, Walk.bind_of_error h,
      Walk.bind_of_error h]

/-- A fold asks the root for its layer, without a guard, visits its children and combines. -/
theorem fold_eq_visit (forest : Forest ε σ ν) (settings : Settings) (algebra : Algebra ε σ α)
    (root : ν) :
    forest.fold settings algebra root = (do
      let layer ← forest.reveal root
      let results ← layer.payloads.mapM (visit forest settings algebra [root])
      combine algebra layer results) := by
  rw [Forest.fold]
  refine bind_congr fun layer => ?_
  funext state
  rw [run_eq_resume forest settings algebra (Stack.faithful_root settings root layer)]
  simp only [resume, deliver, Stack.root, Frame.enter, List.reverse_nil, List.nil_append,
    bind_pure, List.map_cons, List.map_nil]

/-- The fold with an explicit stack is the recursive fold. -/
theorem fold_eq_descend (forest : Forest ε σ ν) (settings : Settings) (algebra : Algebra ε σ α)
    (root : ν) :
    forest.fold settings algebra root =
      descend forest settings algebra settings.maxDepth [] root := by
  obtain ⟨levels, hl⟩ : ∃ levels, settings.maxDepth = levels + 1 :=
    Nat.exists_eq_succ_of_ne_zero (Nat.ne_of_gt settings.maxDepth_pos)
  rw [hl, descend_succ forest settings algebra levels [] root hl, fold_eq_visit]

end Loop

end LayeredTree.Fold
