import LayeredTree.Proofs.Layer.Relation
import LayeredTree.Forest

/-!
# Results of walks

How the result of a sequence of two computations follows from the result of the first one, and
when two computations go alike. Alike computations turn related states into related states, and
answer with related answers or fail with one cause. They may be put together: sequences and tests of
lists go alike when their parts do.
-/

namespace LayeredTree

/-- Where a node has a layer, a walk goes on with it. -/
theorem Forest.reveal_of_ok {ε σ ν : Type} {forest : Forest ε σ ν} {node : ν} {layer : Layer ν}
    {before after : σ} (h : forest.produce node before = .ok layer after) :
    forest.reveal node before = .ok layer after := by
  rw [reveal, lift, h]

/-- Where a node fails to reveal its layer, a walk is interrupted. -/
theorem Forest.reveal_of_error {ε σ ν : Type} {forest : Forest ε σ ν} {node : ν} {cause : ε}
    {before after : σ} (h : forest.produce node before = .error cause after) :
    forest.reveal node before = .error (.raised cause) after := by
  rw [reveal, lift, h]

namespace Walk

variable {ε σ τ α β γ δ : Type}

section Sequence

variable {action : EStateM ε σ α} {next : α → EStateM ε σ β} {before after : σ}

/-- After an answer, the rest goes on in the state that the answer came with. -/
theorem bind_of_ok {answer : α} (h : action before = .ok answer after) :
    (action >>= next) before = next answer after := by
  simp only [bind, EStateM.bind, h]

/-- After a failure, nothing else happens. -/
theorem bind_of_error {cause : ε} (h : action before = .error cause after) :
    (action >>= next) before = .error cause after := by
  simp only [bind, EStateM.bind, h]

/-- The first part of a sequence counts only by its result. -/
theorem bind_congr_left {action' : EStateM ε σ α} (h : action before = action' before)
    (next : α → EStateM ε σ β) : (action >>= next) before = (action' >>= next) before := by
  simp only [bind, EStateM.bind, h]

theorem map_congr {action' : EStateM ε σ α} (h : action before = action' before) {f : α → β} :
    (f <$> action) before = (f <$> action') before := by
  rw [map_eq_pure_bind, map_eq_pure_bind, bind_congr_left h]

/-- After a look at the state, the rest goes on in the same state. -/
theorem get_bind (rest : σ → EStateM ε σ β) : (get >>= rest) before = rest before before := rfl

/-- After a change of the state, the rest goes on in the changed state. -/
theorem modify_bind (f : σ → σ) (rest : PUnit → EStateM ε σ β) :
    (modify f >>= rest) before = rest ⟨⟩ (f before) := rfl

/-- A last change of the state is made after an answer. -/
theorem tryFinally_of_ok {answer : α} (h : action before = .ok answer after) (f : σ → σ) :
    tryFinally action (modify f) before = .ok answer (f after) := by
  simp only [tryFinally, Functor.map, EStateM.map, tryFinally', h]
  rfl

/-- A last change of the state is made after a failure, too. -/
theorem tryFinally_of_error {cause : ε} (h : action before = .error cause after) (f : σ → σ) :
    tryFinally action (modify f) before = .error cause (f after) := by
  simp only [tryFinally, Functor.map, EStateM.map, tryFinally', h]
  rfl

/-- An answer of a sequence comes from answers of both parts. -/
theorem exists_of_bind_eq_ok {answer : β} (h : (action >>= next) before = .ok answer after) :
    ∃ value between, action before = .ok value between ∧ next value between = .ok answer after := by
  cases ha : action before with
  | ok value between => exact ⟨value, between, rfl, by rwa [bind_of_ok ha] at h⟩
  | error cause between =>
    rw [bind_of_error ha] at h
    cases h

/-- A failure of a sequence comes from the first part, or from the rest after an answer. -/
theorem of_bind_eq_error {cause : ε} (h : (action >>= next) before = .error cause after) :
    action before = .error cause after ∨
      ∃ value between, action before = .ok value between ∧
        next value between = .error cause after := by
  cases ha : action before with
  | ok value between => exact .inr ⟨value, between, rfl, by rwa [bind_of_ok ha] at h⟩
  | error other between =>
    rw [bind_of_error ha] at h
    cases h
    exact .inl rfl

/-- A change of the answer leaves a failure as it is. -/
theorem map_eq_error_iff {f : α → β} {cause : ε} :
    (f <$> action) before = .error cause after ↔ action before = .error cause after := by
  rw [map_eq_pure_bind]
  cases ha : action before with
  | ok answer between =>
    rw [bind_of_ok ha]
    exact iff_of_false nofun nofun
  | error other between =>
    rw [bind_of_error ha, EStateM.Result.error.injEq, EStateM.Result.error.injEq]

/-- A run over a list answers once for each item. -/
theorem length_eq_of_mapM_eq_ok {f : α → EStateM ε σ β} {items : List α} {answers : List β}
    (h : items.mapM f before = .ok answers after) : answers.length = items.length := by
  induction items generalizing before answers with
  | nil =>
    cases h
    rfl
  | cons item items ih =>
    rw [List.mapM_cons] at h
    obtain ⟨answer, between, -, h⟩ := exists_of_bind_eq_ok h
    obtain ⟨rest, last, hr, h⟩ := exists_of_bind_eq_ok h
    cases h
    rw [List.length_cons, List.length_cons, ih hr]

end Sequence

/-- What a computation came to, without the state that it left behind. -/
def outcome : EStateM.Result ε σ α → Except ε α
  | .ok answer _ => .ok answer
  | .error cause _ => .error cause

/-- The state that a computation left behind. -/
def stateAfter : EStateM.Result ε σ α → σ
  | .ok _ state => state
  | .error _ state => state

/-- A change of the answer leaves the state as it is. -/
theorem stateAfter_map (f : α → β) (action : EStateM ε σ α) (before : σ) :
    stateAfter ((f <$> action) before) = stateAfter (action before) := by
  rw [map_eq_pure_bind]
  cases ha : action before with
  | ok answer after => rw [bind_of_ok ha]; rfl
  | error cause after => rw [bind_of_error ha]; rfl

/-- Results with related states and related answers, or with related states and one cause. -/
inductive ResultAlike (T : σ → τ → Prop) (R : α → β → Prop) :
    EStateM.Result ε σ α → EStateM.Result ε τ β → Prop
  | ok {a : α} {b : β} {s : σ} {t : τ} (answers : R a b) (states : T s t) :
      ResultAlike T R (.ok a s) (.ok b t)
  | error (cause : ε) {s : σ} {t : τ} (states : T s t) :
      ResultAlike T R (.error cause s) (.error cause t)

/-- A result like an answer is a related answer. -/
theorem ResultAlike.exists_ok {T : σ → τ → Prop} {R : α → β → Prop} {a : α} {s : σ}
    {result : EStateM.Result ε τ β} (h : ResultAlike T R (.ok a s) result) :
    ∃ b t, result = .ok b t ∧ R a b ∧ T s t := by
  cases h with
  | ok answers states => exact ⟨_, _, rfl, answers, states⟩

/-- A result like a failure is a failure for the same cause. -/
theorem ResultAlike.exists_error {T : σ → τ → Prop} {R : α → β → Prop} {cause : ε} {s : σ}
    {result : EStateM.Result ε τ β} (h : ResultAlike T R (.error cause s) result) :
    ∃ t, result = .error cause t ∧ T s t := by
  cases h with
  | error _ states => exact ⟨_, rfl, states⟩

/-- Results alike leave related states behind. -/
theorem ResultAlike.states {T : σ → τ → Prop} {R : α → β → Prop} {left : EStateM.Result ε σ α}
    {right : EStateM.Result ε τ β} (h : ResultAlike T R left right) :
    T (stateAfter left) (stateAfter right) := by
  cases h with
  | ok _ states => exact states
  | error _ states => exact states

/-- Two computations go alike when related states lead to results alike. -/
def Alike (T : σ → τ → Prop) (R : α → β → Prop) (left : EStateM ε σ α) (right : EStateM ε τ β) :
    Prop :=
  ∀ s t, T s t → ResultAlike T R (left s) (right t)

variable {T : σ → τ → Prop} {R : α → β → Prop} {S : γ → δ → Prop}

/-- Answers may be related by less. -/
theorem Alike.imp {R' : α → β → Prop} {left : EStateM ε σ α} {right : EStateM ε τ β}
    (h : Alike T R left right) (hr : ∀ a b, R a b → R' a b) : Alike T R' left right := by
  intro s t states
  have hs := h s t states
  generalize left s = l, right t = r at hs
  cases hs with
  | ok answers states => exact .ok (hr _ _ answers) states
  | error cause states => exact .error cause states

/-- Alike computations with equal states and answers are equal. -/
theorem eq_of_alike {left right : EStateM ε σ α} (h : Alike Eq Eq left right) : left = right := by
  funext state
  have hs := h state state rfl
  generalize left state = l, right state = r at hs
  cases hs with
  | ok answers states => rw [answers, states]
  | error cause states => rw [states]

/-- Answers without effect go alike when they are related. -/
theorem alike_pure {a : α} {b : β} (h : R a b) :
    Alike T R (pure a : EStateM ε σ α) (pure b : EStateM ε τ β) :=
  fun _ _ states => .ok h states

/-- A computation goes like itself. -/
theorem Alike.refl (action : EStateM ε σ α) : Alike Eq Eq action action := by
  intro state _ states
  obtain rfl := states
  cases action state with
  | ok answer after => exact .ok rfl rfl
  | error cause after => exact .error cause rfl

/-- Sequences go alike when their parts do. -/
theorem Alike.bind {left : EStateM ε σ α} {right : EStateM ε τ β} {f : α → EStateM ε σ γ}
    {g : β → EStateM ε τ δ} (h : Alike T R left right)
    (hn : ∀ a b, R a b → Alike T S (f a) (g b)) : Alike T S (left >>= f) (right >>= g) := by
  intro s t states
  have hs := h s t states
  generalize hl : left s = l, hr : right t = r at hs
  cases hs with
  | ok answers states =>
    rw [bind_of_ok hl, bind_of_ok hr]
    exact hn _ _ answers _ _ states
  | error cause states =>
    rw [bind_of_error hl, bind_of_error hr]
    exact .error cause states

/-- Changing the answer of a computation relates it to the computation. -/
theorem alike_map {S : β → α → Prop} {f : α → β} (hf : ∀ a, S (f a) a) (action : EStateM ε σ α) :
    Alike Eq S (f <$> action) action := by
  rw [map_eq_pure_bind, ← bind_pure action, bind_assoc]
  refine (Alike.refl action).bind fun a b hab => ?_
  subst hab
  exact alike_pure (hf a)

/-- Tests of related lists go alike when the tests of related items do. -/
theorem Alike.allM {Q : γ → δ → Prop} {f : γ → EStateM ε σ Bool} {g : δ → EStateM ε τ Bool}
    (h : ∀ c d, Q c d → Alike T Eq (f c) (g d)) {xs : List γ} {ys : List δ}
    (hi : List.Forall₂ Q xs ys) : Alike T Eq (xs.allM f) (ys.allM g) := by
  induction hi with
  | nil =>
    rw [List.allM_nil, List.allM_nil]
    exact alike_pure rfl
  | cons head _ ih =>
    rw [List.allM_cons, List.allM_cons]
    refine (h _ _ head).bind fun passed passed' he => ?_
    subst he
    cases passed with
    | true => exact ih
    | false => exact alike_pure rfl

/-- Computations go alike as parts of walks when they go alike on their own. -/
theorem Alike.lift {left : EStateM ε σ α} {right : EStateM ε τ β} (h : Alike T R left right) :
    Alike T R (Forest.lift left) (Forest.lift right) := by
  intro s t states
  have hs := h s t states
  unfold Forest.lift
  generalize left s = l, right t = r at hs
  cases hs with
  | ok answers states => exact .ok answers states
  | error cause states => exact .error (Interruption.raised cause) states

end Walk

end LayeredTree
