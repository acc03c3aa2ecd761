import LayeredTree.Document.Outline
import LayeredTree.Proofs.Document.Layout
import Mathlib.Data.List.Lex

/-!
# What the layout rejects, and what it arranges

A position of a document is the list of the places of children on the way down to it. The layout
rejects a document exactly when something that is no document stands in some position, even in one
that is not printed, and it reports the first such thing in pre-order. Otherwise it arranges the
node in each position once, from the blocks of its children, and so after all nodes below it.
-/

namespace LayeredTree.Document

variable {ω : Type}

/-! ## Positions -/

/-- The document in a position. -/
def subdocumentAt : Document ω → List Nat → Option (Document ω)
  | doc, [] => some doc
  | doc, place :: position =>
    match doc.children with
    | .ok docs => docs[place]?.bind fun child => subdocumentAt child position
    | .error _ => none

/-- The thing stands in the position, where a document belongs, and there is no other such thing
before it. Positions are compared lexicographically, which is pre-order. -/
structure FirstForeign (doc : Document ω) (position : List Nat) (thing : ω) : Prop where
  /-- The thing stands in the position. -/
  found : doc.subdocumentAt position = some (.foreign thing)
  /-- Nothing in an earlier position is no document. -/
  first : ∀ earlier < position, ∀ other, doc.subdocumentAt earlier ≠ some (.foreign other)

theorem children_eq_error_iff {doc : Document ω} {thing : ω} :
    doc.children = .error thing ↔ doc = .foreign thing := by
  cases doc <;> simp [children]

/-- Below the root, a position is one in a child. -/
theorem subdocumentAt_cons_eq_some_iff {doc sub : Document ω} {place : Nat} {position : List Nat} :
    doc.subdocumentAt (place :: position) = some sub ↔
      ∃ docs child, doc.children = .ok docs ∧ docs[place]? = some child ∧
        child.subdocumentAt position = some sub := by
  rw [subdocumentAt]
  cases hc : doc.children with
  | error thing => simp
  | ok docs => simp [Option.bind_eq_some_iff]

theorem subdocumentAt_append (doc : Document ω) (upper lower : List Nat) :
    doc.subdocumentAt (upper ++ lower) =
      (doc.subdocumentAt upper).bind fun sub => sub.subdocumentAt lower := by
  induction upper generalizing doc with
  | nil => rfl
  | cons place upper ih =>
    rw [List.cons_append, subdocumentAt, subdocumentAt]
    cases doc.children with
    | error thing => rfl
    | ok docs => exact (Option.bind_congr fun child _ => ih child).trans (Option.bind_assoc ..).symm

/-- There is at most one first thing that is no document. -/
theorem FirstForeign.unique {doc : Document ω} {position position' : List Nat} {thing thing' : ω}
    (h : doc.FirstForeign position thing) (h' : doc.FirstForeign position' thing') :
    thing = thing' := by
  rcases lt_trichotomy position position' with hlt | rfl | hlt
  · exact absurd h.found (h'.first position hlt thing)
  · exact foreign.inj (Option.some.inj (h.found.symm.trans h'.found))
  · exact absurd h'.found (h.first position' hlt thing')

/-! ## Rejection -/

/-- Only a thing that is no document cannot be arranged. -/
theorem exists_arrange_eq_ok {doc : Document ω} {docs : List (Document ω)}
    (hc : doc.children = .ok docs) (blocks : List Block) :
    ∃ block, arrange doc blocks = .ok block := by
  cases doc with
  | join separator parts => cases blocks <;> exact ⟨_, rfl⟩
  | foreign thing => cases hc
  | _ => exact ⟨_, rfl⟩

/-- Where a document is laid out, nothing but documents stands in its positions. -/
theorem subdocumentAt_ne_foreign_of_layOut {doc : Document ω} {block : Block}
    (h : doc.layOut = .ok block) (position : List Nat) (thing : ω) :
    doc.subdocumentAt position ≠ some (.foreign thing) := by
  induction position generalizing doc block with
  | nil =>
    intro he
    obtain rfl := Option.some.inj he
    cases h
  | cons place position ih =>
    intro he
    obtain ⟨docs, child, hc, hp, hs⟩ := subdocumentAt_cons_eq_some_iff.1 he
    rw [layOut_of_children hc] at h
    obtain ⟨blocks, hb, -⟩ := exists_of_bind_eq_ok h
    obtain ⟨lower, -, hl⟩ := exists_of_mem_of_mapM_eq_ok hb (List.mem_of_getElem? hp)
    exact ih hl hs

/-- A layout fails at the first thing that is no document. -/
theorem exists_firstForeign_of_layOut {doc : Document ω} {thing : ω}
    (h : doc.layOut = .error thing) : ∃ position, doc.FirstForeign position thing := by
  induction doc using induction with
  | node doc ih =>
    rw [layOut_eq_arrange] at h
    rcases of_bind_eq_error h with hc | ⟨docs, hc, h⟩
    · obtain rfl := children_eq_error_iff.1 hc
      exact ⟨[], rfl, fun earlier hlt => absurd hlt (List.not_lt_nil earlier)⟩
    rcases of_bind_eq_error h with h | ⟨blocks, -, h⟩
    · obtain ⟨front, child, back, rfl, hf, hl⟩ := exists_of_mapM_eq_error h
      obtain ⟨position, hfirst⟩ := ih _ hc child (by simp) hl
      have hp : (front ++ child :: back)[front.length]? = some child := by simp
      refine ⟨front.length :: position,
        subdocumentAt_cons_eq_some_iff.2 ⟨_, child, hc, hp, hfirst.found⟩, ?_⟩
      rintro (_ | ⟨place, earlier⟩) hlt other he
      · obtain rfl := Option.some.inj he
        cases hc
      · obtain ⟨docs, before, hd, hb, hs⟩ := subdocumentAt_cons_eq_some_iff.1 he
        obtain rfl := Except.ok.inj (hc.symm.trans hd)
        rcases List.cons_lt_cons_iff.1 hlt with hleft | ⟨rfl, hbelow⟩
        -- a child further left has been laid out
        · rw [List.getElem?_append_left hleft] at hb
          obtain ⟨block, hblock⟩ := hf before (List.mem_of_getElem? hb)
          exact subdocumentAt_ne_foreign_of_layOut hblock earlier other hs
        · obtain rfl := Option.some.inj (hp.symm.trans hb)
          exact hfirst.first earlier hbelow other hs
    · obtain ⟨block, hb⟩ := exists_arrange_eq_ok hc blocks
      rw [hb] at h
      cases h

theorem layOut_eq_error_iff {doc : Document ω} {thing : ω} :
    doc.layOut = .error thing ↔ ∃ position, doc.FirstForeign position thing := by
  refine ⟨exists_firstForeign_of_layOut, ?_⟩
  rintro ⟨position, hf⟩
  cases hl : doc.layOut with
  | ok block => exact absurd hf.found (subdocumentAt_ne_foreign_of_layOut hl position thing)
  | error other =>
    obtain ⟨position', hf'⟩ := exists_firstForeign_of_layOut hl
    rw [hf.unique hf']

theorem exists_layOut_eq_ok_iff {doc : Document ω} :
    (∃ block, doc.layOut = .ok block) ↔
      ∀ position thing, doc.subdocumentAt position ≠ some (.foreign thing) := by
  constructor
  · rintro ⟨block, h⟩
    exact subdocumentAt_ne_foreign_of_layOut h
  · intro h
    cases hl : doc.layOut with
    | ok block => exact ⟨block, rfl⟩
    | error thing =>
      obtain ⟨position, hf⟩ := exists_firstForeign_of_layOut hl
      exact absurd hf.found (h position thing)

theorem render_eq_error_iff {doc : Document ω} {thing : ω} :
    doc.render = .error thing ↔ doc.layOut = .error thing := by
  rw [render, block_eq_layOut]
  cases doc.layOut <;> simp [bind, Except.bind, pure, Except.pure]

theorem exists_render_eq_ok_iff {doc : Document ω} :
    (∃ content, doc.render = .ok content) ↔ ∃ block, doc.layOut = .ok block := by
  rw [render, block_eq_layOut]
  cases doc.layOut <;> simp [bind, Except.bind, pure, Except.pure]

end LayeredTree.Document
