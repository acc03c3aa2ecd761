import LayeredTree.Layer.Schema
import LayeredTree.Proofs.Layer.Relation

/-!
# The schema of a variant describes its layers

The schema of a variant is made from declarations alone, and the structural operations on layers
know nothing of it. Both agree: read through the schema, the fields of a layer hold its payload
list, in schema order; and a map or a traversal acts on each field as its kind says. The fields
whose kind is not that of a string are just those that a map can change.
-/

universe u v w

namespace LayeredTree

variable {α : Type u} {β : Type v}

/-- The payloads that a value holds as a field of a kind, if it is of that kind. -/
def FieldKind.items? : FieldKind → FieldValue α → Option (List α)
  | .payload, .payload item => some [item]
  | .payloadSequence, .sequence items => some items
  | .name, .name _ => some []
  | _, _ => none

/-- The payloads of a layer as a schema describes them: what its fields hold, in schema order. -/
def Schema.payloads? (schema : Schema) (layer : Layer α) : Option (List α) := do
  let items ← schema.fields.mapM fun (name, kind) => do kind.items? (← layer.field? name)
  return items.flatten

/-- Two values of fields of one kind: related payloads, sequences related item by item, or the same
string. -/
inductive FieldKind.Maps (R : α → β → Prop) : FieldKind → FieldValue α → FieldValue β → Prop
  | payload {item : α} {image : β} (h : R item image) :
      Maps R .payload (.payload item) (.payload image)
  | payloadSequence {items : List α} {images : List β} (h : List.Forall₂ R items images) :
      Maps R .payloadSequence (.sequence items) (.sequence images)
  | name (text : String) : Maps R .name (.name text) (.name text)

/-- Run an action on the payloads of a field, in order. -/
def FieldValue.traverse {m : Type v → Type w} [Monad m] (f : α → m β) :
    FieldValue α → m (FieldValue β)
  | payload item => payload <$> f item
  | sequence items => sequence <$> items.mapM f
  | name text => return name text

/-- The fields of payloads are those of any kind but that of a string. -/
theorem Schema.mem_payloadFields_iff {schema : Schema} {name : String} :
    name ∈ schema.payloadFields ↔ ∃ kind, (name, kind) ∈ schema.fields ∧ kind ≠ .name := by
  simp [payloadFields]

/-- The schema of a variant lists the declared fields. -/
theorem Variant.names_schema (variant : Variant) :
    variant.schema.fields.map (·.1) = variant.declarations.map (·.1) := by
  cases variant <;> rfl

namespace Layer

/-- Read through the schema of its variant, a layer holds its payload list. -/
theorem payloads?_schema (layer : Layer α) :
    layer.variant.schema.payloads? layer = some layer.payloads := by
  cases layer with
  | apply callee arguments =>
    show some [[callee], arguments].flatten = some (callee :: arguments)
    simp
  | abstract parameters body =>
    show some [parameters, [body]].flatten = some (parameters ++ [body])
    simp
  | assign name value => rfl
  | var name => rfl
  | literal value => rfl
  | group label members =>
    show some [[label], members].flatten = some (label :: members)
    simp

/-- Related layers are of one variant. -/
theorem Rel.variant_eq {R : α → β → Prop} {left : Layer α} {right : Layer β}
    (h : Rel R left right) : left.variant = right.variant := by
  cases h <;> rfl

/-- Related layers have every field that the schema of their variant lists, with related values. -/
theorem Rel.exists_field? {R : α → β → Prop} {left : Layer α} {right : Layer β}
    (h : Rel R left right) :
    ∀ field ∈ left.variant.schema.fields, ∃ old new,
      left.field? field.1 = some old ∧ right.field? field.1 = some new ∧
        field.2.Maps R old new := by
  cases h with
  | apply callee arguments =>
    exact List.forall_mem_cons.2 ⟨⟨_, _, rfl, rfl, .payload callee⟩,
      List.forall_mem_singleton.2 ⟨_, _, rfl, rfl, .payloadSequence arguments⟩⟩
  | abstract parameters body =>
    exact List.forall_mem_cons.2 ⟨⟨_, _, rfl, rfl, .payloadSequence parameters⟩,
      List.forall_mem_singleton.2 ⟨_, _, rfl, rfl, .payload body⟩⟩
  | assign name value =>
    exact List.forall_mem_cons.2 ⟨⟨_, _, rfl, rfl, .name name⟩,
      List.forall_mem_singleton.2 ⟨_, _, rfl, rfl, .payload value⟩⟩
  | var name => exact List.forall_mem_singleton.2 ⟨_, _, rfl, rfl, .name name⟩
  | literal value => exact List.forall_mem_singleton.2 ⟨_, _, rfl, rfl, .name value⟩
  | group label members =>
    exact List.forall_mem_cons.2 ⟨⟨_, _, rfl, rfl, .payload label⟩,
      List.forall_mem_singleton.2 ⟨_, _, rfl, rfl, .payloadSequence members⟩⟩

/-- Reading the fields after a traversal is going through the fields in schema order. -/
theorem fields_traverse {m : Type v → Type w} [Monad m] [LawfulMonad m] (layer : Layer α)
    (f : α → m β) :
    fields <$> layer.traverse f = layer.fields.mapM (FieldValue.traverse f) := by
  cases layer <;> simp [fields, traverse, FieldValue.traverse]

/-! ## What a map can change -/

/-- A map relates a layer to its image. -/
theorem rel_map (f : α → β) (layer : Layer α) :
    Rel (fun item image => f item = image) layer (layer.map f) :=
  map_eq_iff_rel.1 rfl

/-- A layer has no field that the schema of its variant does not list. -/
theorem field?_eq_none {layer : Layer α} {name : String}
    (h : name ∉ layer.variant.schema.fields.map (·.1)) : layer.field? name = none := by
  rw [Variant.names_schema] at h
  refine List.lookup_eq_none_iff.2 fun ⟨other, value⟩ hm => bne_iff_ne.2 ?_
  rintro rfl
  exact h (List.of_mem_zip hm).1

/-- A map leaves a field as it is unless the schema lists it as one of payloads. -/
theorem field?_map_of_not_mem {layer : Layer α} {name : String}
    (h : name ∉ layer.variant.schema.payloadFields) (f : α → α) :
    (layer.map f).field? name = layer.field? name := by
  by_cases hm : name ∈ layer.variant.schema.fields.map (·.1)
  · obtain ⟨⟨name, kind⟩, hf, rfl⟩ := List.mem_map.1 hm
    obtain ⟨old, new, ho, hn, hk⟩ := (rel_map f layer).exists_field? _ hf
    have hkind : kind = .name :=
      Classical.not_not.1 fun hne => h (Schema.mem_payloadFields_iff.2 ⟨kind, hf, hne⟩)
    subst hkind
    cases hk
    rw [ho, hn]
  · have hm' := hm
    rw [(rel_map f layer).variant_eq] at hm'
    rw [field?_eq_none hm, field?_eq_none hm']

end Layer

/-- A value of a kind that holds one payload, if it can hold any. -/
def FieldKind.sample : FieldKind → α → FieldValue α
  | payload, item => .payload item
  | payloadSequence, item => .sequence [item]
  | name, _ => .name ""

/-- A layer of a variant with one payload wherever there can be any. -/
def Variant.sample : Variant → α → Layer α
  | apply, item => .apply item [item]
  | abstract, item => .abstract [item] item
  | assign, item => .assign "" item
  | var, _ => .var ""
  | literal, _ => .literal ""
  | group, item => .group item [item]

theorem FieldKind.sample_ne {kind : FieldKind} (hk : kind ≠ .name) {a b : α} (h : a ≠ b) :
    kind.sample a ≠ kind.sample b := by
  cases kind with
  | payload => exact fun he => h (FieldValue.payload.inj he)
  | payloadSequence => exact fun he => h (List.cons.inj (FieldValue.sequence.inj he)).1
  | name => exact absurd rfl hk

namespace Variant

theorem variant_sample (variant : Variant) (item : α) :
    (variant.sample item).variant = variant := by
  cases variant <;> rfl

theorem map_sample (variant : Variant) (f : α → β) (item : α) :
    (variant.sample item).map f = variant.sample (f item) := by
  cases variant <;> rfl

theorem field?_sample (variant : Variant) (item : α) :
    ∀ field ∈ variant.schema.fields,
      (variant.sample item).field? field.1 = some (field.2.sample item) := by
  cases variant with
  | apply | abstract | assign | group =>
    exact List.forall_mem_cons.2 ⟨rfl, List.forall_mem_singleton.2 rfl⟩
  | var | literal => exact List.forall_mem_singleton.2 rfl

/-- Where there are two different payloads, the fields listed as those of payloads are the fields
that a map can change. -/
theorem mem_payloadFields_iff_changes {a b : α} (h : a ≠ b) {variant : Variant} {name : String} :
    name ∈ variant.schema.payloadFields ↔
      ∃ (layer : Layer α) (f : α → α), layer.variant = variant ∧
        (layer.map f).field? name ≠ layer.field? name := by
  constructor
  · intro hm
    obtain ⟨kind, hf, hk⟩ := Schema.mem_payloadFields_iff.1 hm
    refine ⟨variant.sample a, fun _ => b, variant.variant_sample a, ?_⟩
    rw [map_sample, variant.field?_sample b _ hf, variant.field?_sample a _ hf]
    exact fun he => FieldKind.sample_ne hk h (Option.some.inj he).symm
  · rintro ⟨layer, f, rfl, hc⟩
    exact Classical.not_not.1 fun hm => hc (Layer.field?_map_of_not_mem hm f)

end Variant

/-- The payload fields of the schema hold the payload list in order, maps and traversals go through
them as their kinds say, and they are the fields that a map can change. -/
theorem Layer.follows_schema {ε σ : Type v} (layer : Layer α) :
    layer.variant.schema.payloads? layer = some layer.payloads ∧
    (∀ f : α → β, (layer.map f).variant = layer.variant ∧
      ∀ field ∈ layer.variant.schema.fields, ∃ old new,
        layer.field? field.1 = some old ∧ (layer.map f).field? field.1 = some new ∧
          field.2.Maps (fun item image => f item = image) old new) ∧
    layer.fields.map FieldValue.kind = layer.variant.schema.fields.map (·.2) ∧
    (∀ f : α → EStateM ε σ β,
      fields <$> layer.traverse f = layer.fields.mapM (FieldValue.traverse f)) ∧
    ∀ a b : α, a ≠ b → ∀ name, name ∈ layer.variant.schema.payloadFields ↔
      ∃ (other : Layer α) (f : α → α), other.variant = layer.variant ∧
        (other.map f).field? name ≠ other.field? name := by
  refine ⟨layer.payloads?_schema, fun f => ?_, layer.kinds_fields, layer.fields_traverse,
    fun a b h name => ?_⟩
  · have hr := rel_map f layer
    exact ⟨hr.variant_eq.symm, hr.exists_field?⟩
  · exact Variant.mem_payloadFields_iff_changes h

/-- The parameters of an abstraction are a sequence that is mapped item by item, and its body is a
field that a map can change. -/
theorem Layer.follows_schema_abstraction :
    ("parameters", FieldKind.payloadSequence) ∈
      (abstract ["x", "y"] "z").variant.schema.fields ∧
    (∃ old new, (abstract ["x", "y"] "z").field? "parameters" = some old ∧
      ((abstract ["x", "y"] "z").map String.length).field? "parameters" = some new ∧
      FieldKind.payloadSequence.Maps (fun text size => text.length = size) old new) ∧
    "x" ≠ "y" ∧
    ∃ (other : Layer String) (f : String → String), other.variant = .abstract ∧
      (other.map f).field? "body" ≠ other.field? "body" := by
  obtain ⟨-, hmap, -, -, hchange⟩ := @Layer.follows_schema String Nat Unit Unit
    (abstract ["x", "y"] "z")
  have hm : ("parameters", FieldKind.payloadSequence) ∈
      (abstract ["x", "y"] "z").variant.schema.fields := by decide
  have hne : "x" ≠ "y" := by decide
  exact ⟨hm, (hmap String.length).2 _ hm, hne, (hchange _ _ hne "body").1 (by decide)⟩

end LayeredTree
