import LayeredTree.Proofs.Layer.Relation

/-!
# Traversing a layer and refilling it

Traversing a layer runs an action on its payloads in declared order and puts the answers back into
their places. So a traversal is a run over the payload list, after which the layer is refilled;
the refilling cannot fail, since a run over a list gives one answer for each item.
-/

universe u v w

namespace LayeredTree.Layer

variable {α : Type u} {β γ : Type v} {m : Type v → Type w} [Monad m] [LawfulMonad m]

/-- What goes on after a run over a list need only be known for as many answers as items. -/
theorem mapM_bind_congr {f : α → m β} {items : List α} {k k' : List β → m γ}
    (h : ∀ answers : List β, answers.length = items.length → k answers = k' answers) :
    (items.mapM f >>= k) = items.mapM f >>= k' := by
  induction items generalizing k k' with
  | nil => simpa using h [] rfl
  | cons item items ih =>
    simp only [List.mapM_cons, bind_assoc, pure_bind]
    refine bind_congr fun answer => ih fun answers hl => ?_
    exact h (answer :: answers) (by rw [List.length_cons, List.length_cons, hl])

/-- One item for each payload is what it takes to refill a layer. -/
theorem exists_refill_eq_some {layer : Layer α} {items : List β}
    (h : items.length = layer.payloads.length) : ∃ filled, layer.refill items = some filled := by
  cases layer with
  | apply callee arguments =>
    obtain ⟨item, rest, rfl⟩ := List.exists_cons_of_length_eq_add_one h
    exact ⟨_, if_pos (Nat.succ.inj h)⟩
  | abstract parameters body =>
    have hl : items.length = parameters.length + 1 := by simpa [payloads] using h
    have hn : items ≠ [] := List.ne_nil_of_length_eq_add_one hl
    refine ⟨.abstract items.dropLast (items.getLast hn), ?_⟩
    rw [refill, if_pos hl, List.getLast?_eq_some_getLast hn, Option.map_some]
  | assign name value =>
    obtain ⟨item, rfl⟩ := List.length_eq_one_iff.1 h
    exact ⟨_, rfl⟩
  | var name =>
    obtain rfl := List.length_eq_zero_iff.1 h
    exact ⟨_, rfl⟩
  | literal value =>
    obtain rfl := List.length_eq_zero_iff.1 h
    exact ⟨_, rfl⟩
  | group label members =>
    obtain ⟨item, rest, rfl⟩ := List.exists_cons_of_length_eq_add_one h
    exact ⟨_, if_pos (Nat.succ.inj h)⟩

/-- A layer is not refilled with more or fewer items than it has payloads. -/
theorem refill_eq_none_of_length_ne {layer : Layer α} {items : List β}
    (h : items.length ≠ layer.payloads.length) : layer.refill items = none := by
  cases hf : layer.refill items with
  | none => rfl
  | some filled =>
    obtain ⟨hs, rfl⟩ := refill_eq_some_iff.1 hf
    exact absurd (length_payloads_of_shape hs) h

/-- Layers of one shape are refilled with related items alike. -/
theorem rel_refill {δ : Type*} {left : Layer α} {right : Layer δ} {R : β → γ → Prop}
    {items : List β} {items' : List γ} (hs : left.shape = right.shape)
    (hr : List.Forall₂ R items items') :
    Option.Rel (Layer.Rel R) (left.refill items) (right.refill items') := by
  by_cases hl : items.length = left.payloads.length
  · have hl' : items'.length = right.payloads.length := by
      rw [← hr.length_eq, hl, length_payloads_of_shape hs]
    obtain ⟨filled, hf⟩ := exists_refill_eq_some hl
    obtain ⟨filled', hf'⟩ := exists_refill_eq_some hl'
    rw [hf, hf']
    obtain ⟨he, rfl⟩ := refill_eq_some_iff.1 hf
    obtain ⟨he', rfl⟩ := refill_eq_some_iff.1 hf'
    exact .some (.of_payloads (by rw [he, he', hs]) hr)
  · have hl' : items'.length ≠ right.payloads.length := by
      rw [← hr.length_eq, ← length_payloads_of_shape hs]
      exact hl
    rw [refill_eq_none_of_length_ne hl, refill_eq_none_of_length_ne hl']
    exact .none

/-- A traversal is a run over the payloads, after which the layer is refilled. -/
theorem traverse_bind (layer : Layer α) (f : α → m β) (stuck : m γ) (k : Layer β → m γ) :
    (layer.traverse f >>= k) =
      layer.payloads.mapM f >>= fun answers => (layer.refill answers).elim stuck k := by
  cases layer with
  | apply callee arguments =>
    simp only [traverse, payloads, List.mapM_cons, bind_assoc, pure_bind]
    refine bind_congr fun answer => mapM_bind_congr fun answers hl => ?_
    simp only [refill, hl, if_true, Option.elim_some]
  | abstract parameters body =>
    simp only [traverse, payloads, List.mapM_append, List.mapM_cons, List.mapM_nil, bind_assoc,
      pure_bind]
    refine mapM_bind_congr fun answers hl => bind_congr fun answer => ?_
    simp only [refill, List.length_append, List.length_singleton, hl, if_true,
      List.getLast?_append, List.dropLast_concat]
    simp
  | assign name value => simp [traverse, payloads, refill]
  | var name => simp [traverse, payloads, refill]
  | literal value => simp [traverse, payloads, refill]
  | group label members =>
    simp only [traverse, payloads, List.mapM_cons, bind_assoc, pure_bind]
    refine bind_congr fun answer => mapM_bind_congr fun answers hl => ?_
    simp only [refill, hl, if_true, Option.elim_some]

/-- A traversal that nothing follows. What stands for a refilling that fails does not matter. -/
theorem traverse_eq_mapM_bind (layer : Layer α) (f : α → m β) :
    layer.traverse f =
      layer.payloads.mapM f >>= fun answers =>
        (layer.refill answers).elim (layer.traverse f) pure := by
  rw [← traverse_bind, bind_pure]

end LayeredTree.Layer
