import LayeredTree.Layer.Calls
import LayeredTree.Proofs.Layer.Relation
import LayeredTree.Proofs.Walk

/-!
# Equal layers are layers of one shape with equal payloads

A comparison of layers field by field asks about the payloads in declared order. Where the shapes
are the same it goes just as a comparison of the payload lists, with its effects and failures; where
they are not it never says yes. This holds whatever is asked of payloads, so also where the payloads
are nodes whose comparison can be stopped by a guard.
-/

universe u v w

namespace LayeredTree.Layer

variable {α : Type u} {β : Type v}

/-- A layer is determined by its shape and its payload list. -/
theorem eq_iff_shape_payloads {left right : Layer α} :
    left = right ↔ left.shape = right.shape ∧ left.payloads = right.payloads := by
  rw [← rel_eq_iff, rel_iff, List.forall₂_eq_eq_eq]

section Lawful

variable {m : Type → Type w} [Monad m] [LawfulMonad m] {ask : α → β → m Bool}

/-- Lists with front parts of one length are compared in the front parts first. -/
theorem agreeAllBy_append {lefts lefts' : List α} {rights rights' : List β}
    (hl : lefts.length = rights.length) :
    agreeAllBy ask (lefts ++ lefts') (rights ++ rights') = do
      if ← agreeAllBy ask lefts rights then agreeAllBy ask lefts' rights' else return false := by
  induction lefts generalizing rights with
  | nil =>
    obtain rfl := List.length_eq_zero_iff.1 hl.symm
    simp [agreeAllBy]
  | cons left lefts ih =>
    obtain ⟨right, rights, rfl⟩ := List.exists_cons_of_length_eq_add_one hl.symm
    simp only [List.cons_append, agreeAllBy, bind_assoc]
    refine bind_congr fun same => ?_
    cases same with
    | true => exact ih (Nat.succ.inj hl)
    | false => simp

/-- A comparison of lists of one item asks about these items. -/
theorem agreeAllBy_singleton (left : α) (right : β) :
    agreeAllBy ask [left] [right] = ask left right := by
  have h : ∀ same : Bool, (if same = true then pure true else pure false : m Bool) = pure same := by
    intro same
    cases same <;> rfl
  simp only [agreeAllBy, h, bind_pure]

/-- Layers of one shape are compared as their payload lists are. -/
theorem agreesBy_of_shape_eq {left : Layer α} {right : Layer β} (h : left.shape = right.shape) :
    left.agreesBy ask right = agreeAllBy ask left.payloads right.payloads := by
  cases left <;> cases right <;> simp only [shape, map, reduceCtorEq] at h
  case apply => rfl
  case abstract parameters body parameters' body' =>
    -- the sequence comes first here, so the payload lists are compared in two parts
    have hl : parameters.length = parameters'.length := by
      simpa using congrArg List.length (abstract.inj h).1
    rw [payloads, payloads, agreeAllBy_append hl, agreeAllBy_singleton, agreesBy]
  case assign name value name' value' =>
    rw [payloads, payloads, agreeAllBy_singleton, agreesBy, if_pos (assign.inj h).1]
  case var name name' =>
    obtain rfl := var.inj h
    simp [agreesBy, payloads, agreeAllBy]
  case literal value value' =>
    obtain rfl := literal.inj h
    simp [agreesBy, payloads, agreeAllBy]
  case group => rfl

end Lawful

section Effects

variable {ε σ : Type} {ask : α → β → EStateM ε σ Bool} {before after : σ}

/-- Where one question is asked after another one, a yes comes from a yes to both. -/
private theorem exists_of_and_eq_true {first second : EStateM ε σ Bool}
    (h : (do if ← first then second else return false : EStateM ε σ Bool) before =
      .ok true after) :
    ∃ between, first before = .ok true between ∧ second between = .ok true after := by
  obtain ⟨same, between, hf, h⟩ := Walk.exists_of_bind_eq_ok h
  cases same with
  | true => exact ⟨between, hf, h⟩
  | false => cases h

/-- Of lists that agree, the items in each place have been asked about, with a yes. -/
theorem forall₂_of_agreeAllBy {lefts : List α} {rights : List β}
    (h : agreeAllBy ask lefts rights before = .ok true after) :
    List.Forall₂ (fun left right => ∃ s t, ask left right s = .ok true t) lefts rights := by
  induction lefts generalizing rights before with
  | nil =>
    cases rights with
    | nil => exact .nil
    | cons right rights => cases h
  | cons left lefts ih =>
    cases rights with
    | nil => cases h
    | cons right rights =>
      obtain ⟨between, ha, h⟩ := exists_of_and_eq_true h
      exact .cons ⟨before, between, ha⟩ (ih h)

/-- Of layers that agree, the payloads in each place have been asked about, with a yes. -/
theorem rel_of_agreesBy {left : Layer α} {right : Layer β}
    (h : left.agreesBy ask right before = .ok true after) :
    Rel (fun left right => ∃ s t, ask left right s = .ok true t) left right := by
  cases left <;> cases right
  case apply.apply =>
    obtain ⟨between, hc, ha⟩ := exists_of_and_eq_true h
    exact .apply ⟨before, between, hc⟩ (forall₂_of_agreeAllBy ha)
  case abstract.abstract =>
    obtain ⟨between, hp, hb⟩ := exists_of_and_eq_true h
    exact .abstract (forall₂_of_agreeAllBy hp) ⟨between, after, hb⟩
  case assign.assign name _ name' _ =>
    by_cases hn : name = name'
    · subst hn
      rw [agreesBy, if_pos rfl] at h
      exact .assign name ⟨before, after, h⟩
    · rw [agreesBy, if_neg hn] at h
      cases h
  case var.var name name' =>
    obtain rfl := beq_iff_eq.1 (EStateM.Result.ok.inj h).1
    exact .var name
  case literal.literal value value' =>
    obtain rfl := beq_iff_eq.1 (EStateM.Result.ok.inj h).1
    exact .literal value
  case group.group =>
    obtain ⟨between, hl, hm⟩ := exists_of_and_eq_true h
    exact .group ⟨before, between, hl⟩ (forall₂_of_agreeAllBy hm)
  -- layers of two variants differ at once
  all_goals cases h

/-- A comparison of two layers says yes when they have one shape and the comparison of their payload
lists says yes, with the same effects. -/
theorem agreesBy_eq_true_iff {left : Layer α} {right : Layer β} :
    left.agreesBy ask right before = .ok true after ↔
      left.sameShape right = true ∧
        agreeAllBy ask left.payloads right.payloads before = .ok true after := by
  rw [sameShape_iff]
  constructor
  · intro h
    have hs := (rel_of_agreesBy h).shape_eq
    exact ⟨hs, by rwa [agreesBy_of_shape_eq hs] at h⟩
  · rintro ⟨hs, h⟩
    rwa [agreesBy_of_shape_eq hs]

end Effects

end LayeredTree.Layer
