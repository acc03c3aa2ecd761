import LayeredTree.Proofs.Document.Reading

/-!
# Documents read part by part

The text of a document is put together from the texts of its parts, in one way for each of the five
kinds of node; only a stack looks at more than the texts, since it passes over its void parts. A
document that holds nothing but documents is always laid out, and as this text.
-/

namespace LayeredTree.Document

variable {ω : Type}

/-- The meanings of a list are those of its documents. -/
theorem meanings_eq_map (docs : List (Document ω)) : meanings docs = docs.map meaning := by
  induction docs with
  | nil => rfl
  | cons doc docs ih => rw [meanings, ih, List.map_cons]

/-- The void documents of a list are left out. -/
theorem solidMeanings_eq_map (docs : List (Document ω)) :
    solidMeanings docs = (docs.filter fun doc => !doc.isVoid).map meaning := by
  induction docs with
  | nil => rfl
  | cons doc docs ih =>
    rw [solidMeanings, List.filter_cons]
    by_cases hv : doc.isVoid = true
    · rw [if_pos hv, hv, ih]
      rfl
    · have hs : (!doc.isVoid) = true := by simpa using hv
      rw [if_neg hv, if_pos hs, List.map_cons, ih]

theorem allVoid_iff {docs : List (Document ω)} :
    allVoid docs = true ↔ ∀ doc ∈ docs, doc.isVoid = true := by
  induction docs with
  | nil => simp [allVoid]
  | cons doc docs ih => rw [allVoid, Bool.and_eq_true, List.forall_mem_cons, ih]

/-- Void documents are the stacks all of whose parts are void. -/
theorem isVoid_iff {doc : Document ω} :
    doc.isVoid = true ↔ ∃ parts, doc = vertical parts ∧ ∀ part ∈ parts, part.isVoid = true := by
  cases doc with
  | vertical parts =>
    rw [isVoid, allVoid_iff]
    constructor
    · intro h
      exact ⟨parts, rfl, h⟩
    · rintro ⟨others, he, h⟩
      obtain rfl := vertical.inj he
      exact h
  | _ => simp [isVoid]

/-- A reading of documents is compositional when the text of a document is put together from the
texts of its parts. -/
structure Compositional (reading : Document ω → String) : Prop where
  /-- A text reads as it stands. -/
  text (content : String) : reading (.text content) = content
  /-- Parts in a row read one behind the other. -/
  horizontal (parts : List (Document ω)) :
    reading (.horizontal parts) = String.join (parts.map reading)
  /-- Stacked parts that are not void have newlines between them. -/
  vertical (parts : List (Document ω)) :
    reading (.vertical parts) =
      "\n".intercalate ((parts.filter fun part => !part.isVoid).map reading)
  /-- Joined parts have the separator between them. -/
  join (separator : Document ω) (parts : List (Document ω)) :
    reading (.join separator parts) = (reading separator).intercalate (parts.map reading)
  /-- A wrapped body stands between its opening and its closing. -/
  wrap (opening body closing : Document ω) :
    reading (.wrap opening body closing) = reading opening ++ reading body ++ reading closing

/-- The meaning of documents is compositional. -/
theorem compositional_meaning : Compositional (meaning : Document ω → String) where
  text _ := by rw [meaning]
  horizontal parts := by rw [meaning, meanings_eq_map]
  vertical parts := by rw [meaning, solidMeanings_eq_map]
  join separator parts := by rw [meaning, meanings_eq_map]
  wrap opening body closing := by rw [meaning]

/-- A document that holds nothing foreign is laid out as its meaning, which is compositional, and is
void exactly when it is a stack all of whose parts are void. -/
theorem render_eq_meaning :
    (∀ doc : Document Empty, doc.render = .ok doc.meaning) ∧
      Compositional (meaning : Document Empty → String) ∧
      ∀ doc : Document Empty, doc.isVoid = true ↔
        ∃ parts, doc = vertical parts ∧ ∀ part ∈ parts, part.isVoid = true := by
  refine ⟨fun doc => ?_, compositional_meaning, fun doc => isVoid_iff⟩
  cases hr : doc.render with
  | ok content => rw [eq_meaning_of_render hr]
  | error thing => exact thing.elim

end LayeredTree.Document
