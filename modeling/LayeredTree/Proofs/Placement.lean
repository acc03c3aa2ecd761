import LayeredTree.Proofs.Alike
import Mathlib.Data.List.Forall2

/-!
# Where the nodes of a walk stand

One node may come up in many places of a tree. A placed node is a node together with the child
positions that lead to it from the root; a placed forest hands them out with every layer that is
revealed. Placed nodes are identical when their nodes are, wherever they stand, so that the guards
of a walk take no notice of the places. Down to the depth limit, a placed forest is like the forest,
and the same is seen of both.
-/

namespace LayeredTree

variable {ε σ τ ν μ α β γ : Type}

/-! ## Placed nodes -/

/-- A node and the child positions that lead to it from the root. -/
structure Placed (ν : Type) where
  /-- The node. -/
  node : ν
  /-- The child positions on the way from the root to the node. -/
  position : List Nat

namespace Placed

/-- The number of nodes on the way down to a placed node, itself included. -/
def depth (placed : Placed ν) : Nat := placed.position.length + 1

/-- A node as the root of a tree. -/
def root (node : ν) : Placed ν := ⟨node, []⟩

/-- Items placed side by side below a position, counted from some index on. -/
def below (position : List Nat) (start : Nat) (items : List ν) : List (Placed ν) :=
  (items.zipIdx start).map fun (item, index) => ⟨item, position ++ [index]⟩

@[simp] theorem below_cons (position : List Nat) (start : Nat) (item : ν) (items : List ν) :
    below position start (item :: items) =
      ⟨item, position ++ [start]⟩ :: below position (start + 1) items := rfl

theorem below_append (position : List Nat) (start : Nat) (front back : List ν) :
    below position start (front ++ back) =
      below position start front ++ below position (start + front.length) back := by
  rw [below, List.zipIdx_append, List.map_append]
  rfl

/-- Items placed below a position are the items, one level further down. -/
theorem forall₂_below (position : List Nat) (start : Nat) (items : List ν) :
    List.Forall₂ (fun placed item => placed.node = item ∧ placed.depth = position.length + 2)
      (below position start items) items := by
  induction items generalizing start with
  | nil => exact .nil
  | cons item items ih => exact .cons ⟨rfl, by simp [depth]⟩ (ih (start + 1))

section Identity

/-- Placed nodes are identical when their nodes are. -/
instance [BEq ν] : BEq (Placed ν) := ⟨fun left right => left.node == right.node⟩

instance [Hashable ν] : Hashable (Placed ν) := ⟨fun placed => hash placed.node⟩

theorem beq_eq [BEq ν] (left right : Placed ν) : (left == right) = (left.node == right.node) := rfl

instance [BEq ν] [EquivBEq ν] : EquivBEq (Placed ν) where
  rfl := by
    intro placed
    rw [beq_eq]
    exact BEq.rfl
  symm := by
    intro left right h
    rw [beq_eq] at h ⊢
    exact BEq.symm h
  trans := by
    intro left middle right h h'
    rw [beq_eq] at h h' ⊢
    exact BEq.trans h h'

instance [BEq ν] [Hashable ν] [LawfulHashable ν] : LawfulHashable (Placed ν) where
  hash_eq _ _ h := LawfulHashable.hash_eq (α := ν) _ _ h

end Identity

end Placed

/-- A layer whose payloads are placed below a position, numbered in declared order. -/
def Layer.placed (position : List Nat) : Layer ν → Layer (Placed ν)
  | .apply callee arguments =>
    .apply ⟨callee, position ++ [0]⟩ (Placed.below position 1 arguments)
  | .abstract parameters body =>
    .abstract (Placed.below position 0 parameters) ⟨body, position ++ [parameters.length]⟩
  | .assign name value => .assign name ⟨value, position ++ [0]⟩
  | .var name => .var name
  | .literal value => .literal value
  | .group label members => .group ⟨label, position ++ [0]⟩ (Placed.below position 1 members)

/-- The payloads of a placed layer are numbered from left to right. -/
theorem Layer.payloads_placed (position : List Nat) (layer : Layer ν) :
    (layer.placed position).payloads = Placed.below position 0 layer.payloads := by
  cases layer with
  | apply callee arguments => rfl
  | abstract parameters body =>
    rw [placed, payloads, payloads, Placed.below_append, Nat.zero_add]
    rfl
  | assign name value => rfl
  | var name => rfl
  | literal value => rfl
  | group label members => rfl

/-- Placing the payloads of a layer keeps its shape. -/
theorem Layer.shape_placed (position : List Nat) (layer : Layer ν) :
    (layer.placed position).shape = layer.shape := by
  have hb (start : Nat) (items : List ν) :
      ((Placed.below position start items).map fun _ => ()) = items.map fun _ => () := by
    rw [List.map_const', List.map_const', (Placed.forall₂_below position start items).length_eq]
  cases layer <;> simp only [placed, shape, map, hb]

/-- Placed layers have one shape when the layers have. -/
theorem Layer.sameShape_placed (position : List Nat) (left right : Layer ν) :
    (left.placed position).sameShape (right.placed position) = left.sameShape right := by
  rw [Bool.eq_iff_iff, sameShape_iff, sameShape_iff, shape_placed, shape_placed]

/-- A placed layer is the layer, with payloads one level further down. -/
theorem Layer.rel_placed (position : List Nat) (layer : Layer ν) :
    Layer.Rel (fun placed node => placed.node = node ∧ placed.depth = position.length + 2)
      (layer.placed position) layer := by
  refine .of_payloads (shape_placed position layer) ?_
  rw [payloads_placed]
  exact Placed.forall₂_below position 0 layer.payloads

/-- The forest whose nodes are placed: a node reveals the layer that it has anywhere, and the
payloads are placed below it. -/
def Forest.placed (forest : Forest ε σ ν) : Forest ε σ (Placed ν) where
  produce placed := Layer.placed placed.position <$> forest.produce placed.node
  report := forest.report

/-- An event about other nodes. -/
def Event.map (f : ν → μ) : Event ν α → Event μ α
  | .asked node => .asked (f node)
  | .given layer => .given layer
  | .recorded notice => .recorded notice

section Reveal

variable {forest : Forest ε σ ν} {node : ν} {before after : σ} (position : List Nat)
  (past : List (Event (Placed ν) α))

/-- Where a node has a layer, it reveals it in every place, and the question is seen. -/
theorem Forest.reveal_placed_of_ok {layer : Layer ν}
    (h : forest.produce node before = .ok layer after) :
    forest.placed.observed.reveal ⟨node, position⟩ ⟨before, past⟩ =
      .ok (layer.placed position) ⟨after, past ++ [.asked ⟨node, position⟩]⟩ := by
  have hp : forest.placed.produce ⟨node, position⟩ before = .ok (layer.placed position) after := by
    simp only [placed, map_eq_pure_bind, Walk.bind_of_ok h]
    rfl
  refine reveal_of_ok ?_
  simp only [observed, Observed.after, hp]

/-- Where a node fails to reveal its layer, it fails in every place, and the question is seen. -/
theorem Forest.reveal_placed_of_error {cause : ε}
    (h : forest.produce node before = .error cause after) :
    forest.placed.observed.reveal ⟨node, position⟩ ⟨before, past⟩ =
      .error (.raised cause) ⟨after, past ++ [.asked ⟨node, position⟩]⟩ := by
  have hp : forest.placed.produce ⟨node, position⟩ before = .error cause after :=
    Walk.map_eq_error_iff.2 h
  refine reveal_of_error ?_
  simp only [observed, Observed.after, hp]

end Reveal

/-- The same state with the same events but for the places, where all nodes that were asked for
their layers lie within the limit. -/
structure Observed.Traces (limit : Nat) (seen : Observed σ (Placed ν) α)
    (plain : Observed σ ν α) : Prop where
  /-- The states are the same. -/
  state_eq : seen.state = plain.state
  /-- Without the places, the events are the same. -/
  events_eq : seen.events.map (Event.map Placed.node) = plain.events
  /-- Every node that was asked for its layer lies within the limit. -/
  depth_le : ∀ placed, Event.asked placed ∈ seen.events → placed.depth ≤ limit

/-- An event in both keeps the traces, unless it is a question below the limit. -/
theorem Observed.Traces.extend {limit : Nat} {seen : Observed σ (Placed ν) α}
    {plain : Observed σ ν α} (h : seen.Traces limit plain) (event : Event (Placed ν) α)
    (within : ∀ placed, event = .asked placed → placed.depth ≤ limit) (state : σ) :
    Traces limit ⟨state, seen.events ++ [event]⟩
      ⟨state, plain.events ++ [event.map Placed.node]⟩ where
  state_eq := rfl
  events_eq := by
    rw [List.map_append, h.events_eq]
    rfl
  depth_le placed hm := by
    rcases List.mem_append.1 hm with hm | hm
    · exact h.depth_le placed hm
    · exact within placed (List.mem_singleton.1 hm).symm

/-- Computations after one event go alike as they do without it, unless the event is a question
below the limit. -/
theorem Observed.alike_after_placed {R : α → β → Prop} {limit : Nat} (event : Event (Placed ν) γ)
    (within : ∀ placed, event = .asked placed → placed.depth ≤ limit) {left : EStateM ε σ α}
    {right : EStateM ε σ β} (h : Walk.Alike Eq R left right) :
    Walk.Alike (Traces limit) R (after event left) (after (event.map Placed.node) right) := by
  intro seen plain states
  have hs := h seen.state plain.state states.state_eq
  unfold after
  generalize left seen.state = l, right plain.state = r at hs
  cases hs with
  | ok answers hstate =>
    subst hstate
    exact .ok answers (states.extend event within _)
  | error cause hstate =>
    subst hstate
    exact .error cause (states.extend event within _)

/-- At the start nothing has been seen, so nothing below the limit. -/
theorem Observed.Traces.start (limit : Nat) (state : σ) :
    Traces limit (start state : Observed σ (Placed ν) α) (start state) where
  state_eq := rfl
  events_eq := rfl
  depth_le _ hm := absurd hm List.not_mem_nil

/-- An observed algebra is given the same layers wherever the nodes stand. -/
theorem Algebra.alike_observed_placed (algebra : Algebra ε σ α) (limit : Nat) :
    (algebra.observed : Algebra ε (Observed σ (Placed ν) α) α).Alike (Observed.Traces limit) Eq
      (algebra.observed : Algebra ε (Observed σ ν α) α) := by
  intro layer layer' hl
  rw [Layer.rel_eq_iff.1 hl]
  exact Observed.alike_after_placed (.given layer') nofun (.refl _)

/-- An observed forest is like the one in which its nodes are placed and then observed, as long as
all questions are asked within the limit. -/
theorem Forest.alikeWithin_placed [BEq ν] (forest : Forest ε σ ν) (limit : Nat) :
    (forest.placed.observed : Forest ε (Observed σ (Placed ν) α) (Placed ν)).AlikeWithin limit
      (Observed.Traces limit) (fun depth placed node => placed.node = node ∧ placed.depth = depth)
      forest.observed where
  produce := by
    rintro _ placed _ within ⟨rfl, rfl⟩
    refine Observed.alike_after_placed (.asked placed) ?_
      (Walk.alike_map (Layer.rel_placed placed.position) (forest.produce placed.node))
    rintro _ ⟨⟩
    exact within
  report notice seen plain states := by
    have he := states.extend (.recorded notice) nofun (forest.report notice seen.state)
    rw [states.state_eq] at he
    exact { he with state_eq := congrArg (forest.report notice) states.state_eq }
  identity := by
    rintro _ _ a b _ _ ⟨rfl, -⟩ ⟨rfl, -⟩
    rfl

end LayeredTree
