import LayeredTree.Document.Builder
import LayeredTree.Proofs.Fold.FiniteTree
import LayeredTree.Session.Folds

/-!
# Reading a tree back from its pretty document

The pretty document of a layer shows which layer it was made from. The number of parts tells an
abstraction and an assignment from the other variants, and the wrapped part tells an application
from a group; the texts are not looked at, so that a name may well be a bracket. Only the kind of a
leaf is lost: a literal has the document of a variable. Hence pretty documents are equal exactly
for trees that differ at most in the kinds of their leaves.
-/

universe u

namespace LayeredTree

/-! ## Equality of documents -/

namespace Document

variable {ω : Type u} {same : ω → ω → Bool}

mutual

/-- Documents that are built alike are equal, where things that are no documents are compared by
equality. -/
theorem agrees_iff (h : ∀ thing other, same thing other = true ↔ thing = other) :
    (left right : Document ω) → (agrees same left right = true ↔ left = right)
  | .text _, right => by cases right <;> simp [agrees]
  | .horizontal parts, right => by cases right <;> simp [agrees, agreeAll_iff h parts]
  | .vertical parts, right => by cases right <;> simp [agrees, agreeAll_iff h parts]
  | .join separator parts, right => by
    cases right <;> simp [agrees, agrees_iff h separator, agreeAll_iff h parts]
  | .wrap opening body closing, right => by
    cases right <;>
      simp [agrees, agrees_iff h opening, agrees_iff h body, agrees_iff h closing, and_assoc]
  | .foreign _, right => by cases right <;> simp [agrees, h]

/-- Lists of documents that are built alike are equal. -/
theorem agreeAll_iff (h : ∀ thing other, same thing other = true ↔ thing = other) :
    (lefts rights : List (Document ω)) → (agreeAll same lefts rights = true ↔ lefts = rights)
  | [], rights => by cases rights <;> simp [agreeAll]
  | left :: lefts, rights => by
    cases rights <;> simp [agreeAll, agrees_iff h left, agreeAll_iff h lefts]

end

end Document

/-! ## Trees without literals -/

/-- A layer with a variable in place of a literal. -/
def Layer.withoutLiterals {α : Type u} : Layer α → Layer α
  | .literal value => .var value
  | layer => layer

namespace Layer

variable {α β : Type*}

@[simp] theorem payloads_withoutLiterals (layer : Layer α) :
    layer.withoutLiterals.payloads = layer.payloads := by
  cases layer <;> rfl

theorem withoutLiterals_map (f : α → β) (layer : Layer α) :
    (layer.map f).withoutLiterals = layer.withoutLiterals.map f := by
  cases layer <;> rfl

end Layer

/-- A tree with a variable in place of every literal. -/
def Tree.withoutLiterals (tree : Tree) : Tree :=
  tree.fold fun layer => .node layer.withoutLiterals

theorem Tree.withoutLiterals_node (layer : Layer Tree) :
    (node layer).withoutLiterals = node (layer.withoutLiterals.map withoutLiterals) := by
  rw [withoutLiterals, fold_node, Layer.withoutLiterals_map]
  rfl

/-! ## Documents of layers and trees -/

/-- The layer, without literals, whose pretty document is given. -/
def Document.disassemble {ω : Type u} : Document ω → Option (Layer (Document ω))
  | .text name => some (.var name)
  | .horizontal [callee, .wrap _ (.join _ arguments) _] => some (.apply callee arguments)
  | .horizontal [label, .wrap _ (.vertical members) _] => some (.group label members)
  | .horizontal [.text name, _, value] => some (.assign name value)
  | .horizontal [_, .join _ parameters, _, body] => some (.abstract parameters body)
  | _ => none

namespace Builder

variable {ω : Type u}

theorem disassemble_assemble (layer : Layer (Document ω)) :
    (reference.assemble layer).disassemble = some layer.withoutLiterals := by
  cases layer <;> rfl

theorem assemble_withoutLiterals (layer : Layer (Document ω)) :
    reference.assemble layer.withoutLiterals = reference.assemble layer := by
  cases layer <;> rfl

/-- Layers have the same pretty document when they differ at most in the kind of a leaf. -/
theorem assemble_eq_assemble_iff {left right : Layer (Document ω)} :
    reference.assemble left = reference.assemble right ↔
      left.withoutLiterals = right.withoutLiterals := by
  constructor
  · intro h
    have hd := congrArg Document.disassemble h
    rw [disassemble_assemble, disassemble_assemble] at hd
    exact Option.some.inj hd
  · intro h
    rw [← assemble_withoutLiterals left, h, assemble_withoutLiterals]

end Builder

/-- The pretty document of a finite tree. -/
def Tree.document (tree : Tree) : PureDocument := tree.fold Builder.reference.assemble

/-- Finite trees have the same pretty document when they differ at most in the kinds of leaves. -/
theorem Tree.document_eq_document_iff {left right : Tree} :
    left.document = right.document ↔ left.withoutLiterals = right.withoutLiterals := by
  induction right using Tree.induction generalizing left with
  | node layer ih =>
    obtain ⟨other⟩ := left
    calc (node other).document = (node layer).document
      _ ↔ Builder.reference.assemble (other.map document) =
            Builder.reference.assemble (layer.map document) := by
          rw [document, document, fold_node, fold_node]
          rfl
      _ ↔ other.withoutLiterals.map document = layer.withoutLiterals.map document := by
          rw [Builder.assemble_eq_assemble_iff, Layer.withoutLiterals_map,
            Layer.withoutLiterals_map]
      _ ↔ other.withoutLiterals.map withoutLiterals = layer.withoutLiterals.map withoutLiterals :=
          Layer.map_eq_map_congr fun a b hb => ih b (by rwa [← Layer.payloads_withoutLiterals])
      _ ↔ (node other).withoutLiterals = (node layer).withoutLiterals := by
          rw [withoutLiterals_node, withoutLiterals_node, Tree.node.injEq]

variable {ε σ ν : Type} {τ : Type u}

/-- Finite trees within the bound have pretty documents that can be compared, and are equal exactly
when the trees become the same once every literal is replaced by a variable. -/
theorem Forest.documents_eq_iff [BEq ν] [LawfulBEq ν] [Hashable ν] {forest : Forest ε σ ν}
    {view : τ → Layer τ} (meaning : forest.Interpretation view) {settings : Settings} {s t : σ}
    {a b : ν} {left right : τ} (hs : meaning.stands s a left) (ht : meaning.stands t b right)
    {tree other : Tree} (hl : Unfolds view left tree) (hr : Unfolds view right other)
    (hh : tree.height ≤ settings.maxDepth) (hh' : other.height ≤ settings.maxDepth) :
    ∃ doc doc' : PureDocument,
      (∃ after, forest.fold settings (.ofPure Builder.reference.assemble) a s = .ok doc after) ∧
      (∃ after, forest.fold settings (.ofPure Builder.reference.assemble) b t = .ok doc' after) ∧
      (doc = doc' ↔ tree.withoutLiterals = other.withoutLiterals) ∧
      ∀ same, Document.agrees same doc doc' = true ↔ doc = doc' := by
  refine ⟨tree.document, other.document, ?_, ?_, Tree.document_eq_document_iff, fun same => ?_⟩
  · exact Fold.fold_eq_ok_of_unfolds meaning _ hs hl hh
  · exact Fold.fold_eq_ok_of_unfolds meaning _ ht hr hh'
  · exact Document.agrees_iff nofun _ _

/-- Twice a group with an assignment to a bracket, with the kinds of the leaves swapped. -/
def swappedLeaves : Fin 6 → Layer (Fin 6)
  | 0 => .group 4 [2]
  | 1 => .group 5 [3]
  | 2 => .assign "(" 5
  | 3 => .assign "(" 4
  | 4 => .literal "λ"
  | 5 => .var "λ"

/-- Swapping the kinds of the leaves leaves the document as it is. -/
theorem Forest.documents_eq_swappedLeaves :
    ∃ doc : PureDocument,
      (∃ after, (Forest.renewing swappedLeaves : Forest Empty Nat (Nat × Fin 6)).fold
        { maxDepth := 3 } (.ofPure Builder.reference.assemble) (0, 0) 2 = .ok doc after) ∧
      ∃ after, (Forest.renewing swappedLeaves : Forest Empty Nat (Nat × Fin 6)).fold
        { maxDepth := 3 } (.ofPure Builder.reference.assemble) (1, 1) 2 = .ok doc after := by
  let meaning : (Forest.renewing swappedLeaves : Forest Empty Nat (Nat × Fin 6)).Interpretation
    swappedLeaves := Forest.renewingInterpretation swappedLeaves
  let literal : Tree := .node (.literal "λ")
  let var : Tree := .node (.var "λ")
  have hliteral : Unfolds swappedLeaves 4 literal := unfolds_node_iff.2 (.literal "λ")
  have hvar : Unfolds swappedLeaves 5 var := unfolds_node_iff.2 (.var "λ")
  have hleft : Unfolds swappedLeaves 0 (.node (.group literal [.node (.assign "(" var)])) :=
    unfolds_node_iff.2 (.group hliteral (.cons (unfolds_node_iff.2 (.assign "(" hvar)) .nil))
  have hright : Unfolds swappedLeaves 1 (.node (.group var [.node (.assign "(" literal)])) :=
    unfolds_node_iff.2 (.group hvar (.cons (unfolds_node_iff.2 (.assign "(" hliteral)) .nil))
  let settings : Settings := { maxDepth := 3 }
  have hs : meaning.stands 2 (0, 0) 0 := rfl
  have ht : meaning.stands 2 (1, 1) 1 := rfl
  obtain ⟨doc, doc', hl, hr, he, -⟩ := Forest.documents_eq_iff meaning hs ht hleft hright
    (show _ ≤ settings.maxDepth by decide) (by decide)
  obtain rfl := he.2 rfl
  exact ⟨doc, hl, hr⟩

end LayeredTree
