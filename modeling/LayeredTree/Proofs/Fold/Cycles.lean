import LayeredTree.Algebra
import LayeredTree.Proofs.Fold.Refinement
import LayeredTree.Proofs.Route
import Mathlib.Data.List.Lex
import Mathlib.Data.List.Perm.Subperm

/-!
# Cycle detection is exact

With cycles detected, the path of a fold never holds a node twice. So the fold of a pure forest, by
an algebra that never fails, ends in one of three ways: it has a value and the tree is finite; it
meets a node of the path again, and everything to the left of that place is finite; or the path has
more distinct nodes than the depth bound allows. Where no route from the root has that many distinct
nodes, the fold has a value exactly when no route visits a node twice, and else reports the first
repetition in pre-order.
-/

universe u

namespace LayeredTree

variable {ε σ ν α : Type} {τ : Type u} {forest : Forest ε σ ν} {view : τ → Layer τ}

/-- The algebra gives a result for every layer, and all nodes go on standing for their trees. -/
def Algebra.Unfailing (algebra : Algebra ε σ α) (stands : σ → ν → τ → Prop) : Prop :=
  ∀ layer before, ∃ value after, algebra layer before = .ok value after ∧ Keeps stands before after

/-- No route from the root through distinct nodes has more nodes than the limit. -/
def Forest.Interpretation.RoutesWithin (meaning : forest.Interpretation view) (before : σ)
    (root : ν) (limit : Nat) : Prop :=
  ∀ positions nodes, Route meaning before root positions nodes → nodes.Nodup →
    nodes.length ≤ limit

/-- The positions lead through distinct nodes to one of these again, and no route further left, in
lexicographic order, ends with a node that it has visited before. -/
structure FirstRepetition (meaning : forest.Interpretation view) (before : σ) (root : ν)
    (positions : List Nat) (nodes : List ν) (child : ν) : Prop where
  /-- The positions lead through the nodes to the child. -/
  route : Route meaning before root positions (nodes ++ [child])
  /-- No node comes twice before the child. -/
  distinct : nodes.Nodup
  /-- The child is one of the nodes. -/
  repeated : child ∈ nodes
  /-- Further left, no route comes back to one of its nodes. -/
  first : ∀ earlier, earlier < positions → ¬earlier <+: positions → ∀ visited last,
    Route meaning before root earlier (visited ++ [last]) → last ∉ visited

namespace FirstRepetition

variable {meaning : forest.Interpretation view} {before : σ} {root : ν}
  {positions positions' : List Nat} {nodes nodes' : List ν} {child child' : ν}

/-- A first repetition is a route that visits a node twice. -/
theorem not_nodup (h : FirstRepetition meaning before root positions nodes child) :
    ¬(nodes ++ [child]).Nodup := by
  intro hn
  rw [List.nodup_append] at hn
  exact hn.2.2 child h.repeated child List.mem_cons_self rfl

/-- Where nodes give the same nodes each time, no first repetition comes before another one. -/
theorem not_before (hst : forest.Steady)
    (h : FirstRepetition meaning before root positions nodes child)
    (h' : FirstRepetition meaning before root positions' nodes' child') :
    ¬positions < positions' := by
  intro hlt
  by_cases hp : positions <+: positions'
  · rcases List.prefix_concat_iff.1 (h.route.isPrefix hst h'.route hp) with he | hn
    · have hlen : positions.length = positions'.length := by
        have hl := h.route.length_nodes
        have hl' := h'.route.length_nodes
        rw [he] at hl
        omega
      rw [hp.eq_of_length hlen] at hlt
      exact lt_irrefl _ hlt
    -- the repetition would be among the nodes above the other one
    · exact h.not_nodup (h'.distinct.sublist hn.sublist)
  · exact h'.first positions hlt hp nodes child h.route h.repeated

/-- Where nodes give the same nodes each time, there is no more than one first repetition. -/
theorem unique (hst : forest.Steady)
    (h : FirstRepetition meaning before root positions nodes child)
    (h' : FirstRepetition meaning before root positions' nodes' child') :
    positions = positions' ∧ nodes = nodes' ∧ child = child' := by
  have he : positions = positions' :=
    le_antisymm (not_lt.1 (h'.not_before hst h)) (not_lt.1 (h.not_before hst h'))
  subst he
  have hp := h.route.isPrefix hst h'.route List.prefix_rfl
  have hlen : (nodes ++ [child]).length = (nodes' ++ [child']).length := by
    rw [h.route.length_nodes, h'.route.length_nodes]
  obtain ⟨hn, hc⟩ := List.append_inj' (hp.eq_of_length hlen) rfl
  exact ⟨rfl, hn, (List.cons.inj hc).1⟩

end FirstRepetition

/-! ## What is done before a place is reached -/

/-- Every step that leaves a path to the left leads to a finite tree. -/
def FiniteLeftOf (view : τ → Layer τ) (tree : τ) (positions : List Nat) : Prop :=
  ∀ upper position lower earlier sub, positions = upper ++ position :: lower →
    earlier < position → subtreeAt view tree (upper ++ [earlier]) = some sub → IsFinite view sub

theorem finiteLeftOf_nil (view : τ → Layer τ) (tree : τ) : FiniteLeftOf view tree [] := by
  intro upper position lower earlier sub he
  exact absurd he.symm (List.append_ne_nil_of_right_ne_nil _ (List.cons_ne_nil _ _))

/-- Everything to the left of a path through a child is finite when the children to the left are,
and so is everything to the left within the child. -/
theorem FiniteLeftOf.cons {tree child : τ} {position : Nat}
    (hc : (view tree).payloads[position]? = some child)
    (hl : ∀ (earlier : Nat) other, earlier < position →
      (view tree).payloads[earlier]? = some other → IsFinite view other)
    {positions : List Nat} (h : FiniteLeftOf view child positions) :
    FiniteLeftOf view tree (position :: positions) := by
  intro upper fork lower earlier sub he hlt hsub
  cases upper with
  | nil =>
    obtain ⟨rfl, rfl⟩ := List.cons.inj he
    obtain ⟨other, ho, hs⟩ := subtreeAt_cons_eq_some_iff.1 hsub
    obtain rfl := Option.some.inj hs
    exact hl earlier other hlt ho
  | cons head upper =>
    obtain ⟨rfl, rfl⟩ := List.cons.inj he
    obtain ⟨other, ho, hs⟩ := subtreeAt_cons_eq_some_iff.1 hsub
    rw [hc] at ho
    obtain rfl := Option.some.inj ho
    exact h upper fork lower earlier sub rfl hlt hs

/-- A path that comes before another one in pre-order is the beginning of it or leaves it to the
left. -/
theorem exists_fork_of_lt {earlier positions : List Nat} (h : earlier < positions)
    (hp : ¬earlier <+: positions) :
    ∃ upper left right lower lower', earlier = upper ++ left :: lower' ∧
      positions = upper ++ right :: lower ∧ left < right := by
  induction earlier generalizing positions with
  | nil => exact absurd List.nil_prefix hp
  | cons left earlier ih =>
    cases positions with
    | nil => cases h
    | cons right positions =>
      rcases List.cons_lt_cons_iff.1 h with hlt | ⟨rfl, hrest⟩
      · exact ⟨[], left, right, positions, earlier, rfl, rfl, hlt⟩
      · have hpt : ¬earlier <+: positions := fun hpre => hp ((List.prefix_cons_inj left).2 hpre)
        obtain ⟨upper, l, r, lower, lower', rfl, rfl, hlr⟩ := ih hrest hpt
        exact ⟨left :: upper, l, r, lower, lower', rfl, rfl, hlr⟩

/-- Where everything to the left is finite, no route on the left comes back to one of its nodes. -/
theorem FiniteLeftOf.not_mem {meaning : forest.Interpretation view} {before : σ} {root : ν}
    {tree : τ} (hs : meaning.stands before root tree) {positions : List Nat}
    (h : FiniteLeftOf view tree positions) {earlier : List Nat} (hlt : earlier < positions)
    (hp : ¬earlier <+: positions) {visited : List ν} {last : ν}
    (hr : Route meaning before root earlier (visited ++ [last])) : last ∉ visited := by
  obtain ⟨upper, left, right, lower, lower', rfl, rfl, hfork⟩ := exists_fork_of_lt hlt hp
  obtain ⟨after, sub, -, hsub, -⟩ := hr.exists_subtree hs
  have hsplit : upper ++ left :: lower' = (upper ++ [left]) ++ lower' := by
    rw [List.append_assoc, List.singleton_append]
  have ha := hsub
  rw [hsplit, subtreeAt_append, Option.bind_eq_some_iff] at ha
  obtain ⟨between, hb, hbs⟩ := ha
  have hfinite := h upper right lower left between rfl hfork hb
  exact hr.not_mem_of_isFinite hs hsub (hfinite.subtree hbs)

namespace Fold

/-! ## What a fold can end with -/

/-- What a failure below a path, given from the nearest node up, tells: a first repetition with only
finite trees to the left of it, or a route of distinct nodes that exceeds the bound. -/
inductive Caught (meaning : forest.Interpretation view) (settings : Settings) (before : σ)
    (path : List ν) (node : ν) (tree : τ) : Interruption ε → Prop
  | cyclic {positions : List Nat} {nodes : List ν} {child : ν}
      (route : Route meaning before node positions (nodes ++ [child]))
      (distinct : (path.reverse ++ nodes).Nodup) (repeated : child ∈ path.reverse ++ nodes)
      (finite_left : FiniteLeftOf view tree positions) :
      Caught meaning settings before path node tree (.cyclic (path.length + nodes.length))
  | tooDeep {positions : List Nat} {nodes : List ν}
      (route : Route meaning before node positions nodes)
      (distinct : (path.reverse ++ nodes).Nodup)
      (exceeds : settings.maxDepth < path.length + nodes.length) :
      Caught meaning settings before path node tree (.tooDeep settings.maxDepth)

variable {meaning : forest.Interpretation view} {settings : Settings} {before now after : σ}
  {path : List ν} {node child : ν} {tree childTree : τ} {layer : Layer ν} {position : Nat}

/-- A failure at a child is one at the node. -/
theorem Caught.of_child {reason : Interruption ε}
    (h : Caught meaning settings now (node :: path) child childTree reason)
    (hr : forest.produce node before = .ok layer after) (hk : Keeps meaning.stands after now)
    (hc : layer.payloads[position]? = some child)
    (ht : (view tree).payloads[position]? = some childTree)
    (hl : ∀ (earlier : Nat) other, earlier < position →
      (view tree).payloads[earlier]? = some other → IsFinite view other) :
    Caught meaning settings before path node tree reason := by
  have hpath (nodes : List ν) :
      (node :: path).reverse ++ nodes = path.reverse ++ node :: nodes := by
    rw [List.reverse_cons, List.append_assoc, List.singleton_append]
  have hlen (nodes : List ν) :
      (node :: path).length + nodes.length = path.length + (node :: nodes).length := by
    rw [List.length_cons, List.length_cons]
    omega
  cases h with
  | @cyclic positions nodes other route distinct repeated finite_left =>
    rw [hpath] at distinct repeated
    rw [hlen]
    exact .cyclic (.down (.refl _ _) hr hc (route.earlier hk)) distinct repeated
      (.cons ht hl finite_left)
  | @tooDeep positions nodes route distinct exceeds =>
    rw [hpath] at distinct
    rw [hlen] at exceeds
    exact .tooDeep (.down (.refl _ _) hr hc (route.earlier hk)) distinct exceeds

/-- A child that is on the path is a repetition. -/
theorem caught_of_mem (hn : (node :: path).Nodup) (hm : child ∈ node :: path)
    (hr : forest.produce node before = .ok layer after)
    (hc : layer.payloads[position]? = some child)
    (ht : (view tree).payloads[position]? = some childTree)
    (hl : ∀ (earlier : Nat) other, earlier < position →
      (view tree).payloads[earlier]? = some other → IsFinite view other) :
    Caught meaning settings before path node tree (.cyclic (path.length + 1)) := by
  have hpath : path.reverse ++ [node] = (node :: path).reverse := List.reverse_cons.symm
  have hroute : Route meaning before node [position] ([node] ++ [child]) :=
    .down (.refl _ _) hr hc (.here after child)
  refine .cyclic hroute ?_ ?_ (.cons ht hl (finiteLeftOf_nil view childTree))
  · rw [hpath, List.nodup_reverse]
    exact hn
  · rw [hpath, List.mem_reverse]
    exact hm

/-- A fold of the root that is caught has met a first repetition, where no route of distinct nodes
exceeds the bound. -/
theorem Caught.exists_firstRepetition {root : ν} {reason : Interruption ε}
    (h : Caught meaning settings before [] root tree reason) (hs : meaning.stands before root tree)
    (hw : meaning.RoutesWithin before root settings.maxDepth) :
    ∃ positions nodes child, FirstRepetition meaning before root positions nodes child ∧
      reason = .cyclic nodes.length := by
  cases h with
  | @cyclic positions nodes child route distinct repeated finite_left =>
    rw [List.reverse_nil, List.nil_append] at distinct repeated
    refine ⟨positions, nodes, child, ⟨route, distinct, repeated, ?_⟩, ?_⟩
    · intro earlier hlt hp visited last hr
      exact finite_left.not_mem hs hlt hp hr
    · rw [List.length_nil, Nat.zero_add]
  | @tooDeep positions nodes route distinct exceeds =>
    rw [List.reverse_nil, List.nil_append] at distinct
    rw [List.length_nil, Nat.zero_add] at exceeds
    exact absurd (hw positions nodes route distinct) (Nat.not_le_of_lt exceeds)

variable [BEq ν] [LawfulBEq ν]

/-- With cycles detected, the recursive fold of a node that is not on the path has a value and the
tree is finite, or it is caught by a guard. -/
theorem ends_descend_caught (hd : settings.detectCycles = true) {algebra : Algebra ε σ α}
    (ha : algebra.Unfailing meaning.stands) (levels : Nat) {before : σ} {path : List ν} {node : ν}
    {tree : τ} (hs : meaning.stands before node tree) (hn : (node :: path).Nodup)
    (hb : path.length + levels = settings.maxDepth) :
    Walk.Ends meaning.stands (fun _ _ => IsFinite view tree)
      (Caught meaning settings before path node tree) before
      (descend forest settings algebra levels path node before) := by
  induction levels generalizing before path node tree with
  | zero =>
    refine .error (.tooDeep (.here before node) ?_ ?_)
    · rw [← List.reverse_cons, List.nodup_reverse]
      exact hn
    · rw [List.length_singleton]
      omega
  | succ levels ih =>
    obtain ⟨layer, between, hr, hp, hl, hk⟩ := meaning.exists_reveal_eq_ok hs
    rw [descend, Walk.bind_of_ok hr]
    refine .of_keeps hk (.bind (.traverse_at (P := fun sub _ => IsFinite view sub) hl ?_) ?_)
    · intro position child sub hc ht hsub now hkn hdone
      have hleft (earlier : Nat) (other : τ) (he : earlier < position)
          (ho : (view tree).payloads[earlier]? = some other) : IsFinite view other := by
        obtain ⟨-, hf⟩ := hdone earlier other he ho
        exact hf
      by_cases hg : (settings.detectCycles && (node :: path).contains child) = true
      · rw [if_pos hg]
        rw [Bool.and_eq_true, List.contains_iff_mem] at hg
        exact .error (caught_of_mem hn hg.2 hp hc ht hleft)
      · rw [if_neg hg]
        have hm : child ∉ node :: path := by
          rw [hd, Bool.true_and, List.contains_iff_mem] at hg
          exact hg
        have hlen : (node :: path).length + levels = settings.maxDepth := by
          rw [List.length_cons]
          omega
        refine (ih (hkn _ _ hsub) (List.nodup_cons.2 ⟨hm, hn⟩) hlen).imp (fun _ _ h => h) ?_
        intro reason hcaught
        exact hcaught.of_child hp hkn hc ht hleft
    · intro values now _ hv
      obtain ⟨value, last, hlast, hkl⟩ := ha values now
      rw [Forest.lift, hlast]
      exact .ok hkl (isFinite_of_children hv)

variable [Hashable ν]

/-- With cycles detected, the fold of a root has a value and the tree is finite, or it is caught by
a guard. -/
theorem ends_fold_caught (hd : settings.detectCycles = true) {algebra : Algebra ε σ α}
    (ha : algebra.Unfailing meaning.stands) {before : σ} {root : ν} {tree : τ}
    (hs : meaning.stands before root tree) :
    Walk.Ends meaning.stands (fun _ _ => IsFinite view tree)
      (Caught meaning settings before [] root tree) before
      (forest.fold settings algebra root before) := by
  rw [fold_eq_descend]
  exact ends_descend_caught hd ha settings.maxDepth hs (List.nodup_singleton root)
    (Nat.zero_add _)

end Fold

/-- As many distinct nodes as are on a route are among the nodes that can be reached. -/
theorem Forest.Interpretation.routesWithin_of_reachable {meaning : forest.Interpretation view}
    {before : σ} {root : ν} {limit : Nat} {reachable : List ν} (hl : reachable.length ≤ limit)
    (hr : ∀ positions nodes, Route meaning before root positions nodes → nodes ⊆ reachable) :
    meaning.RoutesWithin before root limit := by
  intro positions nodes hroute hn
  exact (hn.subperm (hr positions nodes hroute)).length_le.trans hl

/-- Where no route of distinct nodes exceeds the bound, a fold has a value exactly when no route
repeats a node, and else stops at the first repetition with the number of nodes above it. -/
theorem Forest.fold_detects_cycles [BEq ν] [LawfulBEq ν] [Hashable ν]
    (meaning : forest.Interpretation view) {settings : Settings}
    (hd : settings.detectCycles = true) {algebra : Algebra ε σ α}
    (ha : algebra.Unfailing meaning.stands) {before : σ} {root : ν} {tree : τ}
    (hs : meaning.stands before root tree) :
    (∀ reachable : List ν, reachable.length ≤ settings.maxDepth →
        (∀ positions nodes, Route meaning before root positions nodes → nodes ⊆ reachable) →
        meaning.RoutesWithin before root settings.maxDepth) ∧
      (meaning.RoutesWithin before root settings.maxDepth →
        ((∃ value after, forest.fold settings algebra root before = .ok value after) ↔
          ∀ positions nodes, Route meaning before root positions nodes → nodes.Nodup) ∧
        ((∃ positions nodes, Route meaning before root positions nodes ∧ ¬nodes.Nodup) →
          ∃ positions nodes child, FirstRepetition meaning before root positions nodes child ∧
            (∃ after, forest.fold settings algebra root before =
              .error (.cyclic nodes.length) after) ∧
            (forest.Steady → ∀ positions' nodes' child',
              FirstRepetition meaning before root positions' nodes' child' →
                positions' = positions ∧ nodes' = nodes ∧ child' = child)) ∧
        ∀ limit after,
          forest.fold settings algebra root before ≠ .error (.tooDeep limit) after) := by
  have he := Fold.ends_fold_caught hd ha hs
  refine ⟨fun reachable => meaning.routesWithin_of_reachable, fun hw => ?_⟩
  generalize forest.fold settings algebra root before = result at he
  cases he with
  | @ok value after keeps finite =>
    have hn (positions : List Nat) (nodes : List ν)
        (hr : Route meaning before root positions nodes) : nodes.Nodup :=
      hr.nodup_of_isFinite hs finite
    refine ⟨iff_of_true ⟨value, after, rfl⟩ hn, ?_, fun _ _ h => nomatch h⟩
    rintro ⟨positions, nodes, hr, hrep⟩
    exact absurd (hn positions nodes hr) hrep
  | @error reason after caught =>
    obtain ⟨positions, nodes, child, hfirst, rfl⟩ := caught.exists_firstRepetition hs hw
    refine ⟨iff_of_false (fun ⟨_, _, h⟩ => nomatch h) fun hn => ?_, fun _ => ?_,
      fun _ _ h => nomatch h⟩
    · exact hfirst.not_nodup (hn positions _ hfirst.route)
    · refine ⟨positions, nodes, child, hfirst, ⟨after, rfl⟩, fun hst _ _ _ hother => ?_⟩
      exact hother.unique hst hfirst

/-- A group whose label is also its first member, and whose second member leads back to it. -/
def sharedAndLoop : Fin 3 → Layer (Fin 3)
  | 0 => .group 1 [1, 2]
  | 1 => .var "x"
  | 2 => .assign "y" 0

/-- A shared leaf is no repetition. The fold goes on to the last member and stops at the root below
it, under two nodes. -/
theorem Forest.fold_sharedAndLoop :
    let forest : Forest Empty (List Notice) (Fin 3) :=
      ⟨fun node state => .ok (sharedAndLoop node) state, fun notice notices => notices ++ [notice]⟩
    ∃ (meaning : forest.Interpretation sharedAndLoop) (positions : List Nat) (nodes : List (Fin 3))
      (child : Fin 3), FirstRepetition meaning [] 0 positions nodes child ∧ nodes.length = 2 ∧
        (∀ positions' nodes' child', FirstRepetition meaning [] 0 positions' nodes' child' →
          positions' = positions ∧ nodes' = nodes ∧ child' = child) ∧
        ∃ after, forest.fold { maxDepth := 3 } (.ofPure Algebra.count) 0 [] =
          .error (.cyclic 2) after := by
  intro forest
  let settings : Settings := { maxDepth := 3 }
  have hshows : forest.Shows sharedAndLoop := fun _ _ => rfl
  let meaning : forest.Interpretation sharedAndLoop := hshows.interpretation
  have hd : settings.detectCycles = true := rfl
  have ha : (Algebra.ofPure Algebra.count : Algebra Empty (List Notice) Nat).Unfailing
      meaning.stands := fun layer before => ⟨_, before, rfl, .refl _ _⟩
  have hs : meaning.stands [] 0 0 := rfl
  obtain ⟨hreachable, hfold⟩ := Forest.fold_detects_cycles meaning hd ha hs
  have hall : ∀ node : Fin 3, node ∈ [0, 1, 2] := by decide
  have hw := hreachable [0, 1, 2] (by decide) fun _ _ _ node _ => hall node
  have hloop : Route meaning [] 0 [2, 0] [0, 2, 0] :=
    .down (.refl _ _) rfl rfl (.down (.refl _ _) rfl rfl (.here [] 0))
  obtain ⟨-, hcyclic, -⟩ := hfold hw
  have hst : forest.Steady := by
    intro node before before' layer layer' after after' h h'
    cases h
    cases h'
    rfl
  obtain ⟨positions, nodes, child, hfirst, ⟨after, he⟩, hunique⟩ :=
    hcyclic ⟨[2, 0], [0, 2, 0], hloop, by decide⟩
  obtain ⟨after', hdepth⟩ : ∃ after', forest.fold settings (.ofPure Algebra.count) 0 [] =
      .error (.cyclic 2) after' := by
    rw [Fold.fold_eq_descend]
    exact ⟨_, rfl⟩
  have hlen : nodes.length = 2 := by
    rw [he, EStateM.Result.error.injEq, Interruption.cyclic.injEq] at hdepth
    exact hdepth.1
  exact ⟨meaning, positions, nodes, child, hfirst, hlen, hunique hst, after', hdepth⟩

end LayeredTree
