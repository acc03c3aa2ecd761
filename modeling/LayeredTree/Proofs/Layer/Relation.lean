import LayeredTree.Layer.Basic
import Mathlib.Data.List.Forall2

/-!
# Relations between layers

A relation between payloads lifts to layers. Related layers agree in variant and strings, and
their payloads are related place by place; this is the same as one shape and related payload
lists. The lifting respects composition, so that a layer of witnesses can be chosen place by place.
-/

universe u v w

namespace LayeredTree.Layer

variable {α : Type u} {β : Type v} {γ : Type w} {R S : α → β → Prop}

/-- Layers of one variant with the same strings, and with payloads related place by place. -/
inductive Rel (R : α → β → Prop) : Layer α → Layer β → Prop
  | apply {f : α} {g : β} {xs : List α} {ys : List β} (callee : R f g)
      (arguments : List.Forall₂ R xs ys) : Rel R (.apply f xs) (.apply g ys)
  | abstract {xs : List α} {ys : List β} {f : α} {g : β} (parameters : List.Forall₂ R xs ys)
      (body : R f g) : Rel R (.abstract xs f) (.abstract ys g)
  | assign (name : String) {f : α} {g : β} (value : R f g) :
      Rel R (.assign name f) (.assign name g)
  | var (name : String) : Rel R (.var name) (.var name)
  | literal (value : String) : Rel R (.literal value) (.literal value)
  | group {f : α} {g : β} {xs : List α} {ys : List β} (label : R f g)
      (members : List.Forall₂ R xs ys) : Rel R (.group f xs) (.group g ys)

/-- Lists related place by place are so after they have been paired with others that are. -/
theorem forall₂_zip_zip {ι κ : Type*} {Q : ι → κ → Prop} {xs : List α} {ys : List β}
    {is : List ι} {ks : List κ} (h : List.Forall₂ R xs ys) (h' : List.Forall₂ Q is ks) :
    List.Forall₂ (fun left right => R left.1 right.1 ∧ Q left.2 right.2) (xs.zip is)
      (ys.zip ks) := by
  induction h generalizing is ks with
  | nil => exact .nil
  | cons head _ ih =>
    cases h' with
    | nil => exact .nil
    | cons head' tail' => exact .cons ⟨head, head'⟩ (ih tail')

private theorem map_unit_of_forall₂ {xs : List α} {ys : List β} (h : List.Forall₂ R xs ys) :
    (xs.map fun _ => ()) = ys.map fun _ => () := by
  rw [List.map_const', List.map_const', h.length_eq]

/-- Related layers have one shape. -/
theorem Rel.shape_eq {left : Layer α} {right : Layer β} (h : Rel R left right) :
    left.shape = right.shape := by
  cases h with
  | apply _ arguments => rw [shape, shape, map, map, map_unit_of_forall₂ arguments]
  | abstract parameters _ => rw [shape, shape, map, map, map_unit_of_forall₂ parameters]
  | assign => rfl
  | var => rfl
  | literal => rfl
  | group _ members => rw [shape, shape, map, map, map_unit_of_forall₂ members]

/-- Related layers have related payload lists. -/
theorem Rel.payloads {left : Layer α} {right : Layer β} (h : Rel R left right) :
    List.Forall₂ R left.payloads right.payloads := by
  cases h with
  | apply callee arguments => exact .cons callee arguments
  | abstract parameters body => exact List.rel_append parameters (.cons body .nil)
  | assign _ value => exact .cons value .nil
  | var => exact .nil
  | literal => exact .nil
  | group label members => exact .cons label members

/-- Layers of one shape are related when their payload lists are. -/
theorem Rel.of_payloads {left : Layer α} {right : Layer β} (hs : left.shape = right.shape)
    (hp : List.Forall₂ R left.payloads right.payloads) : Rel R left right := by
  cases left <;> cases right <;> simp only [shape, map, reduceCtorEq] at hs
  case apply =>
    obtain ⟨callee, arguments⟩ := List.forall₂_cons.1 hp
    exact .apply callee arguments
  case abstract xs f ys g =>
    rw [abstract.injEq] at hs
    have hl : xs.length = ys.length := by simpa using congrArg List.length hs.1
    have hf := List.forall₂_take xs.length hp
    have hg := List.forall₂_drop xs.length hp
    simp only [Layer.payloads] at hf hg
    rw [List.take_left, hl, List.take_left] at hf
    rw [List.drop_left, hl, List.drop_left] at hg
    exact .abstract hf (List.forall₂_cons.1 hg).1
  case assign =>
    rw [assign.injEq] at hs
    obtain ⟨rfl, -⟩ := hs
    exact .assign _ (List.forall₂_cons.1 hp).1
  case var =>
    cases hs
    exact .var _
  case literal =>
    cases hs
    exact .literal _
  case group =>
    obtain ⟨label, members⟩ := List.forall₂_cons.1 hp
    exact .group label members

/-- A relation of layers is one shape and a relation of payload lists. -/
theorem rel_iff {left : Layer α} {right : Layer β} :
    Rel R left right ↔
      left.shape = right.shape ∧ List.Forall₂ R left.payloads right.payloads :=
  ⟨fun h => ⟨h.shape_eq, h.payloads⟩, fun h => .of_payloads h.1 h.2⟩

/-- A payload in some place of the left layer is related to one in the same place of the right. -/
theorem Rel.exists_right {left : Layer α} {right : Layer β} (h : Rel R left right) {position : Nat}
    {a : α} (ha : left.payloads[position]? = some a) :
    ∃ b, right.payloads[position]? = some b ∧ R a b := by
  obtain ⟨hl, rfl⟩ := List.getElem?_eq_some_iff.1 ha
  have hr : position < right.payloads.length := by
    rw [← h.payloads.length_eq]
    exact hl
  exact ⟨_, List.getElem?_eq_getElem hr, h.payloads.get hl hr⟩

/-- A payload in some place of the right layer is related to one in the same place of the left. -/
theorem Rel.exists_left {left : Layer α} {right : Layer β} (h : Rel R left right) {position : Nat}
    {b : β} (hb : right.payloads[position]? = some b) :
    ∃ a, left.payloads[position]? = some a ∧ R a b := by
  obtain ⟨hr, rfl⟩ := List.getElem?_eq_some_iff.1 hb
  have hl : position < left.payloads.length := by
    rw [h.payloads.length_eq]
    exact hr
  exact ⟨_, List.getElem?_eq_getElem hl, h.payloads.get hl hr⟩

/-- Layers of one shape are related when the payloads in each place are. -/
theorem Rel.of_getElem? {left : Layer α} {right : Layer β} (hs : left.shape = right.shape)
    (h : ∀ (position : Nat) a b, left.payloads[position]? = some a →
      right.payloads[position]? = some b → R a b) : Rel R left right := by
  refine .of_payloads hs (List.forall₂_iff_get.2 ⟨length_payloads_of_shape hs, ?_⟩)
  intro position hl hr
  exact h position _ _ (List.getElem?_eq_getElem hl) (List.getElem?_eq_getElem hr)

/-- What a payload of the left layer is related to is a payload of the right layer. -/
theorem Rel.with_mem {left : Layer α} {right : Layer β} (h : Rel R left right) :
    Rel (fun a b => R a b ∧ b ∈ right.payloads) left right := by
  refine .of_getElem? h.shape_eq fun position a b ha hb => ?_
  obtain ⟨other, ho, hr⟩ := h.exists_right ha
  rw [hb] at ho
  obtain rfl := Option.some.inj ho
  exact ⟨hr, List.mem_of_getElem? hb⟩

/-- Relating the other way round. -/
theorem Rel.flip {left : Layer α} {right : Layer β} (h : Rel R left right) :
    Rel (fun b a => R a b) right left :=
  .of_payloads h.shape_eq.symm h.payloads.flip

/-- Two layers that are related to a third one are related by what their payloads have in common. -/
theorem Rel.of_common {P : γ → α → Prop} {Q : γ → β → Prop} {common : Layer γ} {left : Layer α}
    {right : Layer β} (h : Rel P common left) (h' : Rel Q common right) :
    Rel (fun a b => ∃ c, P c a ∧ Q c b) left right := by
  refine .of_getElem? (h.shape_eq.symm.trans h'.shape_eq) fun position a b ha hb => ?_
  obtain ⟨c, hc, hp⟩ := h.exists_left ha
  obtain ⟨other, ho, hq⟩ := h'.exists_right hc
  rw [hb] at ho
  obtain rfl := Option.some.inj ho
  exact ⟨c, hp, hq⟩

/-- A weaker relation between payloads relates more layers. -/
theorem Rel.imp {left : Layer α} {right : Layer β} (h : Rel R left right)
    (hi : ∀ a b, R a b → S a b) : Rel S left right :=
  .of_payloads h.shape_eq (h.payloads.imp hi)

/-- Layers are equal when their payloads are equal place by place. -/
theorem rel_eq_iff {left right : Layer α} : Rel Eq left right ↔ left = right := by
  constructor
  · intro h
    cases h <;> simp_all [List.forall₂_eq_eq_eq]
  · rintro rfl
    exact .of_payloads rfl (List.forall₂_refl _)

/-- Mapping the left layer moves the map into the relation. -/
theorem rel_map_left_iff {Q : γ → β → Prop} {f : α → γ} {left : Layer α} {right : Layer β} :
    Rel Q (left.map f) right ↔ Rel (fun a b => Q (f a) b) left right := by
  rw [rel_iff, rel_iff, shape_map, payloads_map, List.forall₂_map_left_iff]

/-- A layer is mapped to the layer whose payloads are the images of its payloads. -/
theorem map_eq_iff_rel {f : α → β} {left : Layer α} {right : Layer β} :
    left.map f = right ↔ Rel (fun a b => f a = b) left right := by
  rw [← rel_eq_iff, rel_map_left_iff]

/-- Two maps make one layer of two layers when they make one payload of those in each place. -/
theorem map_eq_map_iff_rel {f : α → γ} {g : β → γ} {left : Layer α} {right : Layer β} :
    left.map f = right.map g ↔ Rel (fun a b => f a = g b) left right := by
  rw [← rel_eq_iff, rel_map_left_iff, rel_iff, rel_iff, shape_map, payloads_map,
    List.forall₂_map_right_iff]

/-- A map identifies two layers when another one does, if both identify the same payloads. -/
theorem map_eq_map_congr {f : α → β} {g : α → γ} {left right : Layer α}
    (h : ∀ a, ∀ b ∈ right.payloads, f a = f b ↔ g a = g b) :
    left.map f = right.map f ↔ left.map g = right.map g := by
  rw [map_eq_map_iff_rel, map_eq_map_iff_rel]
  constructor
  · intro hf
    exact hf.with_mem.imp fun a b ⟨he, hb⟩ => (h a b hb).1 he
  · intro hg
    exact hg.with_mem.imp fun a b ⟨he, hb⟩ => (h a b hb).2 he

private theorem exists_forall₂_of_forall₂ {P : α → γ → Prop} {Q : γ → β → Prop} {xs : List α}
    {ys : List β} (h : List.Forall₂ (fun a b => ∃ c, P a c ∧ Q c b) xs ys) :
    ∃ zs, List.Forall₂ P xs zs ∧ List.Forall₂ Q zs ys := by
  induction h with
  | nil => exact ⟨[], .nil, .nil⟩
  | cons head _ ih =>
    obtain ⟨z, hp, hq⟩ := head
    obtain ⟨zs, hps, hqs⟩ := ih
    exact ⟨z :: zs, .cons hp hps, .cons hq hqs⟩

/-- Witnesses for the payloads form a layer of witnesses. -/
theorem Rel.exists_middle {P : α → γ → Prop} {Q : γ → β → Prop} {left : Layer α}
    {right : Layer β} (h : Rel (fun a b => ∃ c, P a c ∧ Q c b) left right) :
    ∃ middle : Layer γ, Rel P left middle ∧ Rel Q middle right := by
  cases h with
  | apply callee arguments =>
    obtain ⟨c, hp, hq⟩ := callee
    obtain ⟨cs, hps, hqs⟩ := exists_forall₂_of_forall₂ arguments
    exact ⟨.apply c cs, .apply hp hps, .apply hq hqs⟩
  | abstract parameters body =>
    obtain ⟨c, hp, hq⟩ := body
    obtain ⟨cs, hps, hqs⟩ := exists_forall₂_of_forall₂ parameters
    exact ⟨.abstract cs c, .abstract hps hp, .abstract hqs hq⟩
  | assign name value =>
    obtain ⟨c, hp, hq⟩ := value
    exact ⟨.assign name c, .assign name hp, .assign name hq⟩
  | var name => exact ⟨.var name, .var name, .var name⟩
  | literal value => exact ⟨.literal value, .literal value, .literal value⟩
  | group label members =>
    obtain ⟨c, hp, hq⟩ := label
    obtain ⟨cs, hps, hqs⟩ := exists_forall₂_of_forall₂ members
    exact ⟨.group c cs, .group hp hps, .group hq hqs⟩

end LayeredTree.Layer
