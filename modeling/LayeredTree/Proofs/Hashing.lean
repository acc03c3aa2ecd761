import LayeredTree.Algebra
import LayeredTree.Proofs.Comparison.Agreement
import LayeredTree.Proofs.Fold.FiniteTree

/-!
# Structural hashes collide only where strings or tuples do

The hash of a layer is taken from its fields, which do not tell a variable from a literal or an
application from a group. The tag next to them does, and it also tells the role of each field: that
a hash is one of a child, of a string or of a sequence of children need not be seen from the hash.
So where different strings have different hashes, and different sequences of hashes too, hashing is
injective on layers, and hence on trees of any height.
-/

universe u v

namespace LayeredTree

/-- The tag of a variant leads back to it. -/
theorem Variant.ofTag?_tag (variant : Variant) : ofTag? variant.tag = some variant := by
  cases variant <;> rfl

theorem Variant.tag_injective : Function.Injective tag := by
  intro left right h
  have he : some left = some right := by rw [← ofTag?_tag, h, ofTag?_tag]
  exact Option.some.inj he

/-- The fields of two layers of one variant are of the same kinds. -/
theorem Layer.kinds_fields_of_variant_eq {α : Type u} {left right : Layer α}
    (h : left.variant = right.variant) :
    left.fields.map FieldValue.kind = right.fields.map FieldValue.kind := by
  rw [kinds_fields, kinds_fields, h]

/-- A layer is determined by its variant and the values of its fields. -/
theorem Layer.eq_of_fields_eq {α : Type u} {left right : Layer α}
    (hv : left.variant = right.variant) (hf : left.fields = right.fields) : left = right := by
  cases left <;> cases right <;> simp_all [variant, fields]

namespace Hasher

variable {κ : Type u} {hasher : Hasher κ}

/-- The hash of a field together with its kind determines the field. -/
theorem kind_field_injective (ht : Function.Injective hasher.text)
    (hp : Function.Injective hasher.tuple) :
    Function.Injective fun value : FieldValue κ => (value.kind, hasher.field value) := by
  intro left right h
  obtain ⟨hk, hf⟩ := Prod.mk.inj h
  cases left <;> cases right <;> simp only [FieldValue.kind, reduceCtorEq] at hk
  case payload => exact congrArg _ hf
  case sequence => exact congrArg _ (hp hf)
  case name => exact congrArg _ (ht hf)

/-- Fields of the same kinds with the same hashes are the same fields. -/
theorem fields_eq_of_map_field_eq (ht : Function.Injective hasher.text)
    (hp : Function.Injective hasher.tuple) {left right : List (FieldValue κ)}
    (hk : left.map FieldValue.kind = right.map FieldValue.kind)
    (hf : left.map hasher.field = right.map hasher.field) : left = right := by
  refine List.map_injective_iff.2 (kind_field_injective ht hp) ?_
  rw [← List.zip_map', ← List.zip_map', hk, hf]

/-- Layers with the same hash are the same. -/
theorem layer_injective (ht : Function.Injective hasher.text)
    (hp : Function.Injective hasher.tuple) : Function.Injective hasher.layer := by
  intro left right h
  obtain ⟨htag, hfields⟩ : hasher.text left.variant.tag = hasher.text right.variant.tag ∧
      hasher.fields left = hasher.fields right := by simpa using hp h
  have hv := Variant.tag_injective (ht htag)
  have hk := Layer.kinds_fields_of_variant_eq hv
  exact Layer.eq_of_fields_eq hv (fields_eq_of_map_field_eq ht hp hk (hp hfields))

end Hasher

variable {ε σ ν : Type} {τ : Type u} {κ : Type}

/-- Where hashes of strings and of tuples do not collide, finite trees within the bound have hashes
and can be compared, and the hashes are the same exactly when the trees are equal. -/
theorem Forest.hash_eq_iff_equal [BEq ν] [LawfulBEq ν] [Hashable ν] {forest : Forest ε σ ν}
    {view : τ → Layer τ} (meaning : forest.Interpretation view) {settings : Settings}
    {hasher : Hasher κ} (ht : Function.Injective hasher.text)
    (hp : Function.Injective hasher.tuple) {s t before : σ} {a b : ν} {left right : τ}
    (hs : meaning.stands s a left) (hs' : meaning.stands t b right)
    (ha : meaning.stands before a left) (hb : meaning.stands before b right)
    {tree other : Tree} (hl : Unfolds view left tree) (hr : Unfolds view right other)
    (hh : tree.height ≤ settings.maxDepth) (hh' : other.height ≤ settings.maxDepth) :
    ∃ hash hash' equal,
      (∃ after, forest.fold settings (.ofPure hasher.layer) a s = .ok hash after) ∧
      (∃ after, forest.fold settings (.ofPure hasher.layer) b t = .ok hash' after) ∧
      (∃ after, forest.equal settings a b before = .ok equal after) ∧
      (hash = hash' ↔ equal = true) := by
  obtain ⟨equal, after, he, hd⟩ :=
    Comparison.exists_equal_iff_agree meaning ha hb (.inl hl) hh
  refine ⟨tree.fold hasher.layer, other.fold hasher.layer, equal,
    Fold.fold_eq_ok_of_unfolds meaning _ hs hl hh,
    Fold.fold_eq_ok_of_unfolds meaning _ hs' hr hh', ⟨after, he⟩, ?_⟩
  calc tree.fold hasher.layer = other.fold hasher.layer
    _ ↔ tree = other := (Tree.fold_injective (Hasher.layer_injective ht hp)).eq_iff
    _ ↔ Agree view left right := hl.eq_iff_agree hr
    _ ↔ equal = true := hd.symm

/-- A hash that keeps all that it is made from. -/
inductive Imprint where
  | text (content : String)
  | tuple (items : List Imprint)

/-- The hasher that forgets nothing. -/
def Hasher.imprinting : Hasher Imprint where
  text := .text
  tuple := .tuple

/-- An application and a group of the same leaves. -/
def applyAndGroup : Option Bool → Layer (Option Bool)
  | some true => .apply none [none, none]
  | some false => .group none [none, none]
  | none => .var "x"

/-- The fields of the two layers are the same, but their hashes are not. -/
theorem Forest.hash_ne_applyAndGroup :
    ∃ hash hash',
      (∃ after, (Forest.renewing applyAndGroup : Forest Empty Nat (Nat × Option Bool)).fold
        { maxDepth := 2 } (.ofPure Hasher.imprinting.layer) (0, some true) 2 = .ok hash after) ∧
      (∃ after, (Forest.renewing applyAndGroup : Forest Empty Nat (Nat × Option Bool)).fold
        { maxDepth := 2 } (.ofPure Hasher.imprinting.layer) (1, some false) 2 =
          .ok hash' after) ∧
      (∃ after, (Forest.renewing applyAndGroup : Forest Empty Nat (Nat × Option Bool)).equal
        { maxDepth := 2 } (0, some true) (1, some false) 2 = .ok false after) ∧
      hash ≠ hash' := by
  let meaning : (Forest.renewing applyAndGroup : Forest Empty Nat
    (Nat × Option Bool)).Interpretation applyAndGroup := Forest.renewingInterpretation applyAndGroup
  let x : Tree := .node (.var "x")
  have hx : Unfolds applyAndGroup none x := unfolds_node_iff.2 (.var "x")
  have hleft : Unfolds applyAndGroup (some true) (.node (.apply x [x, x])) :=
    unfolds_node_iff.2 (.apply hx (.cons hx (.cons hx .nil)))
  have hright : Unfolds applyAndGroup (some false) (.node (.group x [x, x])) :=
    unfolds_node_iff.2 (.group hx (.cons hx (.cons hx .nil)))
  let settings : Settings := { maxDepth := 2 }
  have ht : Function.Injective Hasher.imprinting.text := fun _ _ => Imprint.text.inj
  have hp : Function.Injective Hasher.imprinting.tuple := fun _ _ => Imprint.tuple.inj
  have ha : meaning.stands 2 (0, some true) (some true) := rfl
  have hb : meaning.stands 2 (1, some false) (some false) := rfl
  obtain ⟨hash, hash', equal, hl, hr, he, hd⟩ := Forest.hash_eq_iff_equal meaning ht hp ha hb ha hb
    hleft hright (show _ ≤ settings.maxDepth by decide) (by decide)
  have hequal : equal = false := by
    obtain ⟨after, he⟩ := he
    rw [Comparison.equal_eq_descend] at he
    cases he
    rfl
  subst hequal
  exact ⟨hash, hash', hl, hr, he, fun h => Bool.false_ne_true (hd.1 h)⟩

end LayeredTree
