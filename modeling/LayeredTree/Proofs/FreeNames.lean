import LayeredTree.Algebra
import LayeredTree.Proofs.Fold.FiniteTree
import LayeredTree.Proofs.Route

/-!
# Free names are the names with a free occurrence

The free names of a tree are collected from the leaves upwards. Seen from the root, a name is free
when some path leads down to a reference to it and gets past every abstraction on the way: such a
path enters an abstraction by the body only, and only where no parameter has the name among its
own free names. The parameters may be any trees, and an assignment lets every path through.
-/

namespace LayeredTree

/-! ## One layer -/

/-- Whether a path to a free occurrence of a name may go on into the child in some place, where
`binds` holds of the children that have the name free. Only an abstraction keeps paths out. -/
def Layer.LetsIn {α : Type*} (binds : α → Prop) : Layer α → Nat → Prop
  | .abstract parameters _, position =>
    position = parameters.length ∧ ∀ parameter ∈ parameters, ¬binds parameter
  | _, _ => True

theorem Layer.map_eq_var_iff {α β : Type*} {f : α → β} {layer : Layer α} {name : String} :
    layer.map f = .var name ↔ layer = .var name := by
  cases layer <;> simp [map]

theorem Layer.letsIn_map_iff {α β : Type*} {f : α → β} {binds : β → Prop} {layer : Layer α}
    {position : Nat} :
    (layer.map f).LetsIn binds position ↔ layer.LetsIn (fun child => binds (f child)) position := by
  cases layer <;> simp [map, LetsIn]

namespace Algebra

private theorem mem_union_iff {name : String} {sets : List (List String)} :
    name ∈ sets.flatten.eraseDups ↔
      ∃ (position : Nat) (names : List String), sets[position]? = some names ∧ name ∈ names := by
  rw [List.mem_eraseDups, List.mem_flatten]
  constructor
  · rintro ⟨names, hm, hn⟩
    obtain ⟨position, hp⟩ := List.mem_iff_getElem?.1 hm
    exact ⟨position, names, hp, hn⟩
  · rintro ⟨position, names, hp, hn⟩
    exact ⟨names, List.mem_of_getElem? hp, hn⟩

/-- A name is free in a node that refers to it, or in one that lets it in to a child in which it is
free. -/
theorem mem_freeNames_iff {name : String} {layer : Layer (List String)} :
    name ∈ freeNames layer ↔ layer = .var name ∨
      ∃ position names, layer.payloads[position]? = some names ∧ name ∈ names ∧
        layer.LetsIn (name ∈ ·) position := by
  cases layer with
  | apply callee arguments =>
    simp only [freeNames, mem_union_iff, Layer.payloads, Layer.LetsIn, and_true, reduceCtorEq,
      false_or]
  | abstract parameters body =>
    have hb : (parameters ++ [body])[parameters.length]? = some body := by simp
    simp only [freeNames, List.mem_filter, Bool.not_eq_true', List.contains_eq_mem,
      decide_eq_false_iff_not, List.mem_flatten, not_exists, not_and, Layer.payloads,
      Layer.LetsIn, reduceCtorEq, false_or]
    constructor
    · rintro ⟨hn, hp⟩
      exact ⟨parameters.length, body, hb, hn, rfl, hp⟩
    · rintro ⟨position, names, hp, hn, rfl, hf⟩
      obtain rfl := Option.some.inj (hb.symm.trans hp)
      exact ⟨hn, hf⟩
  | assign other value => simp [freeNames, Layer.payloads, Layer.LetsIn, List.getElem?_singleton]
  | var other => simp [freeNames, Layer.payloads, eq_comm]
  | literal value => simp [freeNames, Layer.payloads]
  | group label members =>
    simp only [freeNames, mem_union_iff, Layer.payloads, Layer.LetsIn, and_true, reduceCtorEq,
      false_or]

end Algebra

/-! ## Whole trees -/

namespace Tree

/-- The free names of a tree. -/
def freeNames (tree : Tree) : List String := tree.fold Algebra.freeNames

/-- A name occurs free at the end of a path: there is a reference to it, and every abstraction on
the way lets the path in. -/
structure OccursFree (name : String) (tree : Tree) (path : List Nat) : Prop where
  /-- The path ends at a reference to the name. -/
  reference : subtreeAt Tree.layer tree path = some (.node (.var name))
  /-- Where the path goes on from a subtree, it is let in to the child. -/
  letsIn : ∀ upper position lower sub, path = upper ++ position :: lower →
    subtreeAt Tree.layer tree upper = some sub →
    sub.layer.LetsIn (fun child => name ∈ child.freeNames) position

variable {name : String} {layer : Layer Tree}

theorem occursFree_nil_iff : (node layer).OccursFree name [] ↔ layer = .var name := by
  constructor
  · intro h
    exact Tree.node.inj (Option.some.inj h.reference)
  · rintro rfl
    refine ⟨rfl, fun upper position lower sub hp _ => ?_⟩
    exact absurd hp.symm (List.append_ne_nil_of_right_ne_nil _ (List.cons_ne_nil _ _))

/-- A free occurrence below the root is one in a child that the root lets it in to. -/
theorem occursFree_cons_iff {position : Nat} {path : List Nat} :
    (node layer).OccursFree name (position :: path) ↔
      ∃ child, layer.payloads[position]? = some child ∧ child.OccursFree name path ∧
        layer.LetsIn (fun child => name ∈ child.freeNames) position := by
  constructor
  · rintro ⟨hr, hl⟩
    obtain ⟨child, hc, hr⟩ := subtreeAt_cons_eq_some_iff.1 hr
    refine ⟨child, hc, ⟨hr, fun upper other lower sub hp hs => ?_⟩, hl [] _ _ _ rfl rfl⟩
    exact hl (position :: upper) other lower sub (congrArg _ hp)
      (subtreeAt_cons_eq_some_iff.2 ⟨child, hc, hs⟩)
  · rintro ⟨child, hc, ho, hl⟩
    refine ⟨subtreeAt_cons_eq_some_iff.2 ⟨child, hc, ho.reference⟩, ?_⟩
    -- the path goes on from the root, or from a subtree of the child
    rintro (_ | ⟨first, upper⟩) other lower sub hp hs
    · obtain ⟨rfl, -⟩ := List.cons.inj hp
      obtain rfl := Option.some.inj hs
      exact hl
    · obtain ⟨rfl, hrest⟩ := List.cons.inj hp
      obtain ⟨between, hb, hs⟩ := subtreeAt_cons_eq_some_iff.1 hs
      obtain rfl := Option.some.inj (hc.symm.trans hb)
      exact ho.letsIn upper other lower sub hrest hs

/-- The free names are the names that occur free at the end of some path. -/
theorem mem_freeNames_iff {tree : Tree} :
    name ∈ tree.freeNames ↔ ∃ path, tree.OccursFree name path := by
  induction tree using Tree.induction with
  | node layer ih =>
    rw [freeNames, fold_node, Algebra.mem_freeNames_iff]
    constructor
    · rintro (hv | ⟨position, names, hp, hn, hl⟩)
      · exact ⟨[], occursFree_nil_iff.2 (Layer.map_eq_var_iff.1 hv)⟩
      · rw [Layer.payloads_map, List.getElem?_map, Option.map_eq_some_iff] at hp
        obtain ⟨child, hc, rfl⟩ := hp
        obtain ⟨path, ho⟩ := (ih child (List.mem_of_getElem? hc)).1 hn
        exact ⟨position :: path, occursFree_cons_iff.2 ⟨child, hc, ho, Layer.letsIn_map_iff.1 hl⟩⟩
    · rintro ⟨path, ho⟩
      cases path with
      | nil =>
        obtain rfl := occursFree_nil_iff.1 ho
        exact .inl (Layer.map_eq_var_iff.2 rfl)
      | cons position path =>
        obtain ⟨child, hc, ho, hl⟩ := occursFree_cons_iff.1 ho
        refine .inr ⟨position, child.freeNames, ?_, ?_, Layer.letsIn_map_iff.2 hl⟩
        · rw [Layer.payloads_map, List.getElem?_map, hc]
          rfl
        · exact (ih child (List.mem_of_getElem? hc)).2 ⟨path, ho⟩

end Tree

variable {ε σ ν : Type} {τ : Type*}

/-- The free names of a finite tree within the bound are the names with a path to a reference that
enters abstractions by their bodies only and finds the name free in no parameter. -/
theorem Forest.fold_freeNames_iff_occursFree [BEq ν] [LawfulBEq ν] [Hashable ν]
    {forest : Forest ε σ ν} {view : τ → Layer τ} (meaning : forest.Interpretation view)
    {settings : Settings} {before : σ} {root : ν} {tree : τ} {finite : Tree}
    (hs : meaning.stands before root tree) (hu : Unfolds view tree finite)
    (hh : finite.height ≤ settings.maxDepth) :
    ∃ names after,
      forest.fold settings (.ofPure Algebra.freeNames) root before = .ok names after ∧
        ∀ name, name ∈ names ↔ ∃ path, finite.OccursFree name path := by
  obtain ⟨after, hr⟩ := Fold.fold_eq_ok_of_unfolds meaning Algebra.freeNames hs hu hh
  exact ⟨finite.freeNames, after, hr, fun name => Tree.mem_freeNames_iff⟩

/-- An application in the scope of a parameter that is itself an abstraction. -/
def boundByTree : Fin 7 → Layer (Fin 7)
  | 0 => .abstract [1] 2
  | 1 => .abstract [3] 4
  | 2 => .apply 5 [4, 6]
  | 3 => .var "x"
  | 4 => .var "y"
  | 5 => .assign "z" 3
  | 6 => .literal "z"

/-- The parameter binds the name that is free in it, and not the one that it abstracts over. The
name of an assignment does not count, even where a literal repeats it. -/
theorem Forest.freeNames_boundByTree :
    ∃ names after, (Forest.renewing boundByTree : Forest Empty Nat (Nat × Fin 7)).fold
        { maxDepth := 4 } (.ofPure Algebra.freeNames) (0, 0) 1 = .ok names after ∧
      "x" ∈ names ∧ "y" ∉ names ∧ "z" ∉ names := by
  let meaning : (Forest.renewing boundByTree : Forest Empty Nat (Nat × Fin 7)).Interpretation
    boundByTree := Forest.renewingInterpretation boundByTree
  let x : Tree := .node (.var "x")
  let y : Tree := .node (.var "y")
  let z : Tree := .node (.literal "z")
  have hx : Unfolds boundByTree 3 x := unfolds_node_iff.2 (.var "x")
  have hy : Unfolds boundByTree 4 y := unfolds_node_iff.2 (.var "y")
  have hz : Unfolds boundByTree 6 z := unfolds_node_iff.2 (.literal "z")
  have hassign : Unfolds boundByTree 5 (.node (.assign "z" x)) :=
    unfolds_node_iff.2 (.assign "z" hx)
  have hparameter : Unfolds boundByTree 1 (.node (.abstract [x] y)) :=
    unfolds_node_iff.2 (.abstract (.cons hx .nil) hy)
  have hbody : Unfolds boundByTree 2 (.node (.apply (.node (.assign "z" x)) [y, z])) :=
    unfolds_node_iff.2 (.apply hassign (.cons hy (.cons hz .nil)))
  have hroot : Unfolds boundByTree 0 (.node (.abstract [.node (.abstract [x] y)]
      (.node (.apply (.node (.assign "z" x)) [y, z])))) :=
    unfolds_node_iff.2 (.abstract (.cons hparameter .nil) hbody)
  let settings : Settings := { maxDepth := 4 }
  have hs : meaning.stands 1 (0, 0) 0 := rfl
  obtain ⟨names, after, hr, hn⟩ := Forest.fold_freeNames_iff_occursFree meaning hs hroot
    (show _ ≤ settings.maxDepth by decide)
  refine ⟨names, after, hr, (hn "x").2 ⟨[1, 0, 0], ?_⟩, fun hm => ?_, fun hm => ?_⟩
  · refine Tree.occursFree_cons_iff.2 ⟨_, rfl, ?_, rfl, by decide⟩
    refine Tree.occursFree_cons_iff.2 ⟨_, rfl, ?_, trivial⟩
    exact Tree.occursFree_cons_iff.2 ⟨_, rfl, Tree.occursFree_nil_iff.2 rfl, trivial⟩
  · exact absurd (Tree.mem_freeNames_iff.2 ((hn "y").1 hm)) (by decide)
  · exact absurd (Tree.mem_freeNames_iff.2 ((hn "z").1 hm)) (by decide)

end LayeredTree
