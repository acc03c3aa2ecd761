import LayeredTree.Proofs.Comparison.Agreement
import LayeredTree.Proofs.Document.Reading
import LayeredTree.Proofs.Fold.Guards
import LayeredTree.Proofs.Relational
import LayeredTree.Session.Folds
import LayeredTree.Settings.Reading

/-!
# Pretty documents read as plain text

The pretty algebra assembles a document where the plain algebra writes a text. When the documents
of the children read as their texts, the document of the node reads as its text, and no document
that the algebra assembles is void, so that no member of a group is lost between two newlines. The
two folds of a node therefore go alike.
-/

universe u

namespace LayeredTree

/-- A document stands for a text: it is not void, and it reads as the text. -/
structure PureDocument.Writes (doc : PureDocument) (content : String) : Prop where
  /-- The document leaves a trace in a stack. -/
  solid : doc.isVoid = false
  /-- The document reads as the text. -/
  meaning_eq : doc.meaning = content

namespace PureDocument

open Document

/-- A document that stands for a text is laid out as that text. -/
theorem Writes.render_eq {doc : PureDocument} {content : String} (h : doc.Writes content) :
    doc.render = content := by
  unfold render
  cases hr : Document.render doc with
  | ok text => rw [← h.meaning_eq, ← eq_meaning_of_render hr]
  | error thing => cases thing

/-- The meanings of documents are the texts that they stand for. -/
theorem meanings_of_writes {docs : List PureDocument} {contents : List String}
    (h : List.Forall₂ Writes docs contents) : meanings docs = contents := by
  induction h with
  | nil => rfl
  | cons head _ ih => rw [meanings, head.meaning_eq, ih]

/-- Documents that stand for texts are all solid. -/
theorem solidMeanings_of_writes {docs : List PureDocument} {contents : List String}
    (h : List.Forall₂ Writes docs contents) : solidMeanings docs = contents := by
  induction h with
  | nil => rfl
  | cons head _ ih =>
    rw [solidMeanings, head.solid, head.meaning_eq, ih]
    rfl

/-- The pretty document of a layer stands for its plain text when those of the children do. -/
theorem writes_assemble {docs : Layer PureDocument} {contents : Layer String}
    (h : Layer.Rel Writes docs contents) :
    Writes (Builder.reference.assemble docs) (Algebra.plain contents) := by
  cases h with
  | apply callee arguments =>
    refine ⟨rfl, ?_⟩
    simp only [Builder.assemble, Builder.reference, meaning, meanings, callee.meaning_eq,
      meanings_of_writes arguments, Algebra.plain, Algebra.commaList, String.join_cons,
      String.join_nil, String.append_empty, String.append_assoc]
  | abstract parameters body =>
    refine ⟨rfl, ?_⟩
    simp only [Builder.assemble, Builder.reference, meaning, meanings, body.meaning_eq,
      meanings_of_writes parameters, Algebra.plain, Algebra.commaList, String.join_cons,
      String.join_nil, String.append_empty, String.append_assoc]
  | assign name value =>
    refine ⟨rfl, ?_⟩
    simp only [Builder.assemble, Builder.reference, meaning, meanings, value.meaning_eq,
      Algebra.plain, String.join_cons, String.join_nil, String.append_empty, String.append_assoc]
  | var name => exact ⟨rfl, rfl⟩
  | literal value => exact ⟨rfl, rfl⟩
  | group label members =>
    refine ⟨rfl, ?_⟩
    simp only [Builder.assemble, Builder.reference, meaning, meanings, label.meaning_eq,
      solidMeanings_of_writes members, Algebra.plain, String.join_cons, String.join_nil,
      String.append_empty, String.append_assoc]

end PureDocument

/-- The text of the pretty document of a node is its plain text, whatever happens on the way. -/
theorem Forest.map_render_fold {ε σ ν : Type} [BEq ν] [LawfulBEq ν] [Hashable ν]
    (forest : Forest ε σ ν) (settings : Settings) (root : ν) :
    PureDocument.render <$> forest.fold settings (.ofPure Builder.reference.assemble) root =
      forest.fold settings (.ofPure Algebra.plain) root :=
  forest.map_fold_of_rel (R := PureDocument.Writes) (fun _ _ hw => hw.render_eq)
    (fun _ _ hl => PureDocument.writes_assemble hl) settings root

namespace Session

/-- The answer of a walk may be changed before or after the walk is run in a session. -/
theorem map_walk {α β : Type} (f : α → β) (action : Walk Failure Session α) :
    f <$> walk action = walk (f <$> action) := by
  funext session
  rw [map_eq_pure_bind, map_eq_pure_bind]
  cases ha : action session with
  | ok value after =>
    have hw : walk action session = .ok value after := by rw [walk, ha]
    rw [Walk.bind_of_ok hw, walk, Walk.bind_of_ok ha]
    rfl
  | error reason after =>
    have hw : walk action session = .error (.ofInterruption reason) after := by rw [walk, ha]
    rw [Walk.bind_of_error hw, walk, Walk.bind_of_error ha]

/-- Folds with the same answers under all settings have them under those in force in a session. -/
theorem map_foldPure [Settings.Validation] {α β : Type} {f : Layer α → α} {g : Layer β → β}
    {h : α → β} {id : NodeId} (hfg : ∀ settings, h <$> forest.fold settings (.ofPure f) id =
      forest.fold settings (.ofPure g) id) (settings? : Option Settings) :
    h <$> foldPure settings? f id = foldPure settings? g id := by
  rw [foldPure, foldPure, foldWith, foldWith, map_bind]
  refine bind_congr fun settings => ?_
  rw [map_walk, hfg]

end Session

/-- A pretty document reads as the plain text. On a pure forest both folds give one string, or one
guard of the settings stops both; other forests and sessions do not tell them apart either. -/
theorem render_pretty_eq_plain [Settings.Validation] {ε σ ν : Type} [BEq ν] [LawfulBEq ν]
    [Hashable ν] (forest : Forest ε σ ν) (settings : Settings) (root : ν) (id : NodeId) :
    PureDocument.render <$> forest.fold settings (.ofPure Builder.reference.assemble) root =
        forest.fold settings (.ofPure Algebra.plain) root ∧
      (∀ {τ : Type u} {view : τ → Layer τ} (meaning : forest.Interpretation view) {before : σ}
        {tree : τ}, meaning.stands before root tree →
        (∃ (doc : PureDocument) (after : σ),
          forest.fold settings (.ofPure Builder.reference.assemble) root before = .ok doc after ∧
            forest.fold settings (.ofPure Algebra.plain) root before = .ok doc.render after) ∨
        ∃ reason after, settings.Stops reason ∧
          forest.fold settings (.ofPure (Builder.reference : Builder PureDocument).assemble) root
            before = .error reason after ∧
          forest.fold settings (.ofPure Algebra.plain) root before = .error reason after) ∧
      Session.renderNode id .pretty = Session.renderNode id .plain := by
  have hfold := forest.map_render_fold settings root
  refine ⟨hfold, fun meaning before _ hs => ?_, ?_⟩
  · have hplain := congrFun hfold before
    rw [map_eq_pure_bind] at hplain
    cases hp : forest.fold settings (.ofPure (Builder.reference : Builder PureDocument).assemble)
        root before with
    | ok doc after =>
      rw [Walk.bind_of_ok hp] at hplain
      exact .inl ⟨doc, after, rfl, hplain.symm⟩
    | error reason after =>
      rw [Walk.bind_of_error hp] at hplain
      exact .inr ⟨reason, after, Fold.stops_of_fold_ofPure meaning _ hs hp, rfl, hplain.symm⟩
  · have hnode := Session.map_foldPure
      (fun settings => Session.forest.map_render_fold settings id) none
    rw [map_eq_pure_bind] at hnode
    exact hnode

/-- An application with an argument reads alike in both ways, also where all nodes are new. -/
theorem render_pretty_selfApplied :
    let forest : Forest Empty Nat (Nat × Bool) := .renewing selfApplied
    ∃ (doc : PureDocument) (after : Nat),
      forest.fold { maxDepth := 2 } (.ofPure Builder.reference.assemble) (0, true) 1 =
          .ok doc after ∧
        doc.render = "x(x)" := by
  intro forest
  let _ := Settings.reading
  let meaning : forest.Interpretation selfApplied := Forest.renewingInterpretation selfApplied
  have hs : meaning.stands 1 (0, true) true := rfl
  obtain ⟨after, hplain⟩ : ∃ after, forest.fold { maxDepth := 2 } (.ofPure Algebra.plain)
      (0, true) 1 = .ok "x(x)" after := by
    rw [Fold.fold_eq_descend]
    exact ⟨_, rfl⟩
  obtain ⟨-, hpure, -⟩ := render_pretty_eq_plain forest { maxDepth := 2 } (0, true) ⟨0⟩
  rcases hpure meaning hs with ⟨doc, after', hd, hp⟩ | ⟨reason, after', -, -, hp⟩
  · rw [hplain] at hp
    injection hp with hr ha
    exact ⟨doc, after', hd, hr.symm⟩
  · rw [hplain] at hp
    cases hp

end LayeredTree
