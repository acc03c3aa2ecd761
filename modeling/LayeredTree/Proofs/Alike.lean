import LayeredTree.Fold.Loop
import LayeredTree.Proofs.Walk

/-!
# Forests and algebras that go alike

Two forests with the same nodes are alike when revealing a node gives the same layer in both and
keeps their states related. Forests with different nodes can be compared down to a depth limit: the
nodes of each depth are related by a relation of their own, and only nodes within the limit need to
reveal layers alike. Two algebras are alike when they send related layers to related results.

An observed forest and an observed algebra are alike to the ones that they observe. They take down
the events of a walk: a node is asked for its layer, an algebra is given a layer, and a notice is
recorded.
-/

namespace LayeredTree

variable {ε σ τ ν μ α β : Type}

/-- Revealing a node gives the same in both forests, from related states to related states. -/
structure Forest.Alike (T : σ → τ → Prop) (left : Forest ε σ ν) (right : Forest ε τ ν) :
    Prop where
  /-- A node reveals the same layer in both forests, or fails for one cause. -/
  produce (node : ν) : Walk.Alike T Eq (left.produce node) (right.produce node)
  /-- A notice keeps states related. -/
  report (notice : Notice) {s : σ} {t : τ} (states : T s t) :
    T (left.report notice s) (right.report notice t)

/-- A forest is like itself. -/
theorem Forest.Alike.refl (forest : Forest ε σ ν) : forest.Alike Eq forest where
  produce node := .refl (forest.produce node)
  report notice _ _ states := congrArg (forest.report notice) states

/-- Two algebras send related layers to related results. -/
def Algebra.Alike (T : σ → τ → Prop) (R : α → β → Prop) (left : Algebra ε σ α)
    (right : Algebra ε τ β) : Prop :=
  ∀ layer layer', Layer.Rel R layer layer' → Walk.Alike T R (left layer) (right layer')

/-- Algebras without effects need only send related layers to related results. -/
theorem Algebra.alike_ofPure {R : α → β → Prop} {f : Layer α → α} {g : Layer β → β}
    (h : ∀ layer layer', Layer.Rel R layer layer' → R (f layer) (g layer')) :
    (Algebra.ofPure f : Algebra ε σ α).Alike Eq R (.ofPure g) :=
  fun layer layer' hl => Walk.alike_pure (h layer layer' hl)

/-! ## Down to a limit -/

/-- Down to the limit, nodes related at one depth reveal layers of nodes related at the next depth,
or fail for one cause, and related nodes are identical to each other in both forests or in none. -/
structure Forest.AlikeWithin [BEq ν] [BEq μ] (limit : Nat) (T : σ → τ → Prop)
    (N : Nat → ν → μ → Prop) (left : Forest ε σ ν) (right : Forest ε τ μ) : Prop where
  /-- Within the limit, related nodes reveal layers of related nodes. -/
  produce {depth : Nat} {node : ν} {other : μ} (within : depth ≤ limit)
    (related : N depth node other) :
    Walk.Alike T (Layer.Rel (N (depth + 1))) (left.produce node) (right.produce other)
  /-- A notice keeps states related. -/
  report (notice : Notice) {s : σ} {t : τ} (states : T s t) :
    T (left.report notice s) (right.report notice t)
  /-- Related nodes are identical in both forests or in none. -/
  identity {depth depth' : Nat} {a b : ν} {a' b' : μ} (ha : N depth a a') (hb : N depth' b b') :
    (a == b) = (a' == b')

/-- Forests that are alike are alike down to any limit. -/
theorem Forest.Alike.within [BEq ν] {T : σ → τ → Prop} {left : Forest ε σ ν}
    {right : Forest ε τ ν} (h : left.Alike T right) (limit : Nat) :
    left.AlikeWithin limit T (fun _ => Eq) right where
  produce {depth node other} _ related := by
    subst related
    exact (h.produce node).imp fun _ _ => Layer.rel_eq_iff.2
  report notice _ _ states := h.report notice states
  identity ha hb := by rw [ha, hb]

/-! ## Events -/

/-- Something that happens in a walk. -/
inductive Event (ν α : Type) where
  /-- A node was asked for its layer. -/
  | asked (node : ν)
  /-- An algebra was given a layer. -/
  | given (layer : Layer α)
  /-- A notice was recorded. -/
  | recorded (notice : Notice)

/-- A state and the events that have led to it. -/
structure Observed (σ ν α : Type) where
  /-- The state. -/
  state : σ
  /-- The events, in the order in which they happened. -/
  events : List (Event ν α)

namespace Observed

/-- A state before anything has happened. -/
def start (state : σ) : Observed σ ν α := ⟨state, []⟩

/-- Take down an event, and then run a computation on the state. -/
def after (event : Event ν α) (action : EStateM ε σ β) : EStateM ε (Observed σ ν α) β :=
  fun seen =>
    match action seen.state with
    | .ok value state => .ok value ⟨state, seen.events ++ [event]⟩
    | .error cause state => .error cause ⟨state, seen.events ++ [event]⟩

end Observed

/-- The same forest, taking down every question to a node and every notice. -/
def Forest.observed (forest : Forest ε σ ν) : Forest ε (Observed σ ν α) ν where
  produce node := Observed.after (.asked node) (forest.produce node)
  report notice seen := ⟨forest.report notice seen.state, seen.events ++ [.recorded notice]⟩

/-- The same algebra, taking down every layer that it is given. -/
def Algebra.observed (algebra : Algebra ε σ α) : Algebra ε (Observed σ ν α) α :=
  fun layer => Observed.after (.given layer) (algebra layer)

end LayeredTree
