import LayeredTree.Proofs.Rendering

/-!
# Every builder evaluates the reference document

The reference document of a tree keeps every step by which a builder assembles one. So whatever
another builder makes of a tree is got from the reference document, by replacing each node of the
document with the builder's operation, from the bottom up; and the two folds of a tree end for the
same reason where they end without a document.
-/

universe u v

namespace LayeredTree

namespace Document

variable {ω : Type u} {δ : Type v} (builder : Builder δ) (outside : ω → δ)

/-- The documents of a list are evaluated one by one. -/
theorem evaluateAll_eq_map (docs : List (Document ω)) :
    evaluateAll builder outside docs = docs.map (evaluate builder outside) := by
  induction docs with
  | nil => rfl
  | cons doc docs ih => rw [evaluateAll, ih, List.map_cons]

/-- The reference document of a layer evaluates to what the builder makes of the evaluated parts. -/
theorem evaluate_assemble (layer : Layer (Document ω)) :
    evaluate builder outside (Builder.reference.assemble layer) =
      builder.assemble (layer.map (evaluate builder outside)) := by
  cases layer with
  | apply callee arguments =>
    simp only [Builder.assemble, Builder.reference, evaluate, evaluateAll_eq_map, List.map_cons,
      List.map_nil, Layer.map]
  | abstract parameters body =>
    simp only [Builder.assemble, Builder.reference, evaluate, evaluateAll_eq_map, List.map_cons,
      List.map_nil, Layer.map]
  | assign name value =>
    simp only [Builder.assemble, Builder.reference, evaluate, evaluateAll_eq_map, List.map_cons,
      List.map_nil, Layer.map]
  | var name => rfl
  | literal value => rfl
  | group label members =>
    simp only [Builder.assemble, Builder.reference, evaluate, evaluateAll_eq_map, List.map_cons,
      List.map_nil, Layer.map]

end Document

/-- The document that a builder makes of a document that holds nothing but documents. -/
def PureDocument.evaluate {δ : Type} (builder : Builder δ) (doc : PureDocument) : δ :=
  Document.evaluate builder Empty.elim doc

variable {ε σ ν δ : Type} [DecidableEq ν] [Hashable ν]

/-- A fold through a builder is the fold through the reference builder, evaluated. -/
theorem Forest.map_evaluate_fold (builder : Builder δ) (forest : Forest ε σ ν)
    (settings : Settings) (root : ν) :
    PureDocument.evaluate builder <$>
        forest.fold settings (.ofPure Builder.reference.assemble) root =
      forest.fold settings (.ofPure builder.assemble) root :=
  forest.map_fold (Document.evaluate_assemble builder Empty.elim) settings root

/-- What a builder makes of a tree is the reference document of the tree, evaluated by the builder;
the two folds fail for the same reasons, and so it is for the trees of a session. -/
theorem pretty_eq_evaluate_reference [Settings.Validation] (builder : Builder δ)
    (forest : Forest ε σ ν) (settings : Settings) (root : ν) (blueprint : Blueprint) :
    forest.fold settings (.ofPure builder.assemble) root =
        PureDocument.evaluate builder <$>
          forest.fold settings (.ofPure Builder.reference.assemble) root ∧
      (∀ reason before after,
        forest.fold settings (.ofPure builder.assemble) root before = .error reason after ↔
          forest.fold settings (.ofPure (Builder.reference : Builder PureDocument).assemble) root
            before = .error reason after) ∧
      Session.pretty builder blueprint =
        PureDocument.evaluate builder <$> Session.pretty Builder.reference blueprint := by
  have hfold := forest.map_evaluate_fold builder settings root
  refine ⟨hfold.symm, fun reason before after => ?_, ?_⟩
  · rw [← hfold, Walk.map_eq_error_iff]
  · rw [Session.pretty, Session.pretty, map_bind]
    refine bind_congr fun id => ?_
    exact (Session.map_foldPure (fun settings =>
      Session.forest.map_evaluate_fold builder settings id) none).symm

end LayeredTree
