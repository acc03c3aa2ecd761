import LayeredTree.Proofs.Document.Gluing

/-!
# Interchangeable documents

Documents that read alike need not be interchangeable: an empty column leaves no trace below other
parts of a column, whereas an empty text leaves an empty line. Two documents are interchangeable
in every position of a document exactly when they are laid out as the same block of lines. Rows
within rows and columns within columns may therefore be dissolved, wrapped and joined parts written
as rows, and texts cut anywhere, whatever stands around them.
-/

namespace LayeredTree.Document

variable {ω : Type}

/-! ## Positions in a document -/

/-- A node of a document with one of its places left open. -/
inductive Place (ω : Type) where
  | inRow (front back : List (Document ω))
  | inColumn (front back : List (Document ω))
  | asSeparator (parts : List (Document ω))
  | joined (separator : Document ω) (front back : List (Document ω))
  | asOpening (body closing : Document ω)
  | wrapped (opening closing : Document ω)
  | asClosing (opening body : Document ω)

/-- The node with a document in the open place. -/
def Place.put : Place ω → Document ω → Document ω
  | .inRow front back, doc => .horizontal (front ++ doc :: back)
  | .inColumn front back, doc => .vertical (front ++ doc :: back)
  | .asSeparator parts, doc => .join doc parts
  | .joined separator front back, doc => .join separator (front ++ doc :: back)
  | .asOpening body closing, doc => .wrap doc body closing
  | .wrapped opening closing, doc => .wrap opening doc closing
  | .asClosing opening body, doc => .wrap opening body doc

/-- The nodes on the way from the root of a document down to a position in it, each open where the
next one belongs. -/
abbrev Context (ω : Type) := List (Place ω)

/-- The whole document, with some document in the position. -/
def Context.fill (context : Context ω) (doc : Document ω) : Document ω :=
  context.foldr Place.put doc

/-- Either of two documents may stand in any position: the whole is laid out as the same lines, and
so as the same text. -/
def Interchangeable (left right : Document ω) : Prop :=
  ∀ context : Context ω, (context.fill left).block = (context.fill right).block ∧
    (context.fill left).render = (context.fill right).render

theorem layOutAll_nil : layOutAll ([] : List (Document ω)) = pure [] := rfl

theorem layOutAll_cons (doc : Document ω) (docs : List (Document ω)) :
    layOutAll (doc :: docs) = (do
      let block ← doc.layOut
      let blocks ← layOutAll docs
      return block :: blocks) := by
  rw [layOutAll]

theorem layOutAll_append (front back : List (Document ω)) :
    layOutAll (front ++ back) = (do
      let upper ← layOutAll front
      let lower ← layOutAll back
      return upper ++ lower) := by
  simp only [layOutAll_eq_mapM, List.mapM_append]

/-- Around a place, only the block of the document in it counts. -/
theorem layOut_put {left right : Document ω} (h : left.layOut = right.layOut) (place : Place ω) :
    (place.put left).layOut = (place.put right).layOut := by
  have hl (front back : List (Document ω)) :
      layOutAll (front ++ left :: back) = layOutAll (front ++ right :: back) := by
    rw [layOutAll_append, layOutAll_append, layOutAll, layOutAll, h]
  cases place <;> simp only [Place.put, layOut, h, hl]

theorem layOut_fill {left right : Document ω} (h : left.layOut = right.layOut)
    (context : Context ω) : (context.fill left).layOut = (context.fill right).layOut := by
  induction context with
  | nil => exact h
  | cons place context ih => exact layOut_put ih place

/-- Documents that are laid out alike are interchangeable. -/
theorem interchangeable_of_layOut_eq {left right : Document ω} (h : left.layOut = right.layOut) :
    Interchangeable left right := by
  intro context
  have hb : (context.fill left).block = (context.fill right).block := by
    rw [block_eq_layOut, block_eq_layOut, layOut_fill h]
  exact ⟨hb, by rw [render, render, hb]⟩

/-! ## What a block says of its document -/

/-- Documents are laid out in lines without newlines. -/
theorem unbroken_of_layOut {doc : Document ω} {block : Block} (h : doc.layOut = .ok block) :
    block.Unbroken := by
  induction doc using induction generalizing block with
  | node doc ih =>
    rw [layOut_eq_arrange] at h
    obtain ⟨docs, hc, h⟩ := exists_of_bind_eq_ok h
    obtain ⟨blocks, hb, h⟩ := exists_of_bind_eq_ok h
    have hu : ∀ block ∈ blocks, block.Unbroken := by
      intro block hm
      obtain ⟨child, hm, hl⟩ := exists_of_mem_answers_of_mapM_eq_ok hb hm
      exact ih docs hc child hm hl
    cases doc with
    | text content => exact Except.ok.inj h ▸ Block.unbroken_ofText content
    | horizontal parts => exact Except.ok.inj h ▸ .glue hu
    | vertical parts => exact Except.ok.inj h ▸ .stack hu
    | join separator parts =>
      cases blocks with
      | nil => exact Except.ok.inj h ▸ .glue nofun
      | cons between blocks =>
        obtain ⟨hs, hr⟩ := List.forall_mem_cons.1 hu
        exact Except.ok.inj h ▸ .glue (Block.forall_mem_intersperse hs hr)
    | wrap opening body closing => exact Except.ok.inj h ▸ .glue hu
    | foreign thing => cases h

/-- A document that holds nothing but documents is laid out as the lines of its meaning, unless it
is void. -/
theorem layOut_eq_ofText_meaning (doc : Document Empty) :
    doc.layOut = .ok (if doc.isVoid then [] else Block.ofText doc.meaning) := by
  cases hl : doc.layOut with
  | error thing => exact thing.elim
  | ok block =>
    have hr := reads_of_layOut doc hl
    by_cases hv : doc.isVoid = true
    · rw [if_pos hv, hr.empty.2 hv]
    · rw [if_neg hv, ← hr.text, Block.ofText_toText (unbroken_of_layOut hl) (mt hr.empty.1 hv)]

theorem render_eq_ok_meaning (doc : Document Empty) : doc.render = .ok doc.meaning := by
  cases hr : doc.render with
  | ok content => rw [eq_meaning_of_render hr]
  | error thing => exact thing.elim

/-- Documents are interchangeable exactly when they read alike and both or neither are void. -/
theorem interchangeable_iff {left right : Document Empty} :
    Interchangeable left right ↔ left.meaning = right.meaning ∧ left.isVoid = right.isVoid := by
  constructor
  · intro h
    have hm (context : Context Empty) :
        (context.fill left).meaning = (context.fill right).meaning := by
      have hr := (h context).2
      rwa [render_eq_ok_meaning, render_eq_ok_meaning, Except.ok.injEq] at hr
    -- below an empty line, a void document leaves no trace and any other one a line
    have hc (doc : Document Empty) : (Context.fill [.inColumn [.text ""] []] doc).meaning =
        if doc.isVoid then "" else "\n" ++ doc.meaning := by
      by_cases hv : doc.isVoid = true
      · simp [Context.fill, Place.put, meaning, solidMeanings, isVoid, hv]
      · simp [Context.fill, Place.put, meaning, solidMeanings, isVoid, hv]
    have hv := hm [.inColumn [.text ""] []]
    rw [hc, hc] at hv
    refine ⟨hm [], ?_⟩
    cases hl : left.isVoid <;> cases hr : right.isVoid <;> simp [hl, hr] at hv ⊢
  · rintro ⟨hm, hv⟩
    refine interchangeable_of_layOut_eq ?_
    rw [layOut_eq_ofText_meaning, layOut_eq_ofText_meaning, hm, hv]

/-! ## Two ways of writing one layout -/

/-- A row within a row may be dissolved. -/
theorem layOut_row (front parts back : List (Document ω)) :
    layOut (.horizontal (front ++ [.horizontal parts] ++ back)) =
      layOut (.horizontal (front ++ parts ++ back)) := by
  simp only [layOut, layOutAll_nil, layOutAll_cons, layOutAll_append, bind_assoc, pure_bind,
    Block.glue_append_glue]

/-- A column within a column may be dissolved. -/
theorem layOut_column (front parts back : List (Document ω)) :
    layOut (.vertical (front ++ [.vertical parts] ++ back)) =
      layOut (.vertical (front ++ parts ++ back)) := by
  simp only [layOut, layOutAll_nil, layOutAll_cons, layOutAll_append, bind_assoc, pure_bind,
    Block.stack, List.flatten_append, List.flatten_cons, List.flatten_nil, List.append_nil]

/-- A wrapped body is a row of three parts. -/
theorem layOut_wrap (opening body closing : Document ω) :
    layOut (.wrap opening body closing) = layOut (.horizontal [opening, body, closing]) := by
  simp only [layOut, layOutAll_nil, layOutAll_cons, bind_assoc, pure_bind]

/-- Joined parts are a row with the separator between them, unless the separator cannot be laid
out: a row of fewer than two parts has no place for it. -/
theorem layOut_join {separator : Document ω} {between : Block}
    (h : separator.layOut = pure between) (parts : List (Document ω)) :
    layOut (.join separator parts) = layOut (.horizontal (parts.intersperse separator)) := by
  have hp : layOutAll (parts.intersperse separator) = (do
      let blocks ← layOutAll parts
      return blocks.intersperse between) := by
    induction parts with
    | nil => rfl
    | cons part parts ih =>
      cases parts with
      | nil =>
        simp only [List.intersperse_singleton, layOutAll_nil, layOutAll_cons, bind_assoc, pure_bind]
      | cons other parts =>
        rw [List.intersperse_cons_cons, layOutAll_cons, layOutAll_cons, ih, h]
        simp only [layOutAll_cons, bind_assoc, pure_bind, List.intersperse_cons_cons]
  simp only [layOut, hp, h, bind_assoc, pure_bind]

/-- A text may be cut anywhere, to be a row of two texts. -/
theorem layOut_text_append (front back : String) :
    layOut (.text (front ++ back) : Document ω) =
      layOut (.horizontal [.text front, .text back]) := by
  have hc : Block.chain [Block.ofText front, Block.ofText back] = Block.ofText (front ++ back) := by
    rw [Block.chain_cons, Block.chain_singleton, Block.ofText_append]
  have hg := Block.glue_eq_chain (hc ▸ Block.ofText_ne_nil (front ++ back))
  exact congrArg Except.ok (hg.trans hc).symm

/-- A text may be cut at a newline, to be a column of two texts. -/
theorem layOut_text_append_newline (upper lower : String) :
    layOut (.text (upper ++ "\n" ++ lower) : Document ω) =
      layOut (.vertical [.text upper, .text lower]) := by
  have hs : Block.stack [Block.ofText upper, Block.ofText lower] =
      Block.ofText upper ++ Block.ofText lower := by
    rw [Block.stack, List.flatten_cons, List.flatten_singleton]
  exact congrArg Except.ok ((Block.ofText_append_newline upper lower).trans hs.symm)

/-- Two documents that are written in different ways and laid out alike. -/
inductive Rewrite : Document ω → Document ω → Prop
  | row (front parts back : List (Document ω)) :
      Rewrite (.horizontal (front ++ [.horizontal parts] ++ back))
        (.horizontal (front ++ parts ++ back))
  | column (front parts back : List (Document ω)) :
      Rewrite (.vertical (front ++ [.vertical parts] ++ back)) (.vertical (front ++ parts ++ back))
  | wrap (opening body closing : Document ω) :
      Rewrite (.wrap opening body closing) (.horizontal [opening, body, closing])
  | join (separator : Document ω) (parts : List (Document ω)) :
      Rewrite (.join separator parts) (.horizontal (parts.intersperse separator))
  | text (front back : String) :
      Rewrite (.text (front ++ back)) (.horizontal [.text front, .text back])
  | newline (upper lower : String) :
      Rewrite (.text (upper ++ "\n" ++ lower)) (.vertical [.text upper, .text lower])

/-- A rewrite may be made in any position of a document, whatever stands around it: rows in rows and
columns in columns are dissolved, wrapped and joined parts become rows, and texts are cut. -/
theorem interchangeable_of_rewrite {left right : Document Empty} (h : Rewrite left right) :
    Interchangeable left right := by
  refine interchangeable_of_layOut_eq ?_
  cases h with
  | row front parts back => exact layOut_row front parts back
  | column front parts back => exact layOut_column front parts back
  | wrap opening body closing => exact layOut_wrap opening body closing
  | join separator parts => exact layOut_join (layOut_eq_ofText_meaning separator) parts
  | text front back => exact layOut_text_append front back
  | newline upper lower => exact layOut_text_append_newline upper lower

/-- The void part of a join under a column leaves an empty line in the row that the join becomes,
too. -/
theorem interchangeable_join_of_void :
    (Context.fill [.wrapped (.text "(") (.text ")"), .inColumn [.text "a"] [.vertical []]]
        (.join (.text ",\n") [.vertical [], .text ""])).render =
      (Context.fill [.wrapped (.text "(") (.text ")"), .inColumn [.text "a"] [.vertical []]]
        (.horizontal [.vertical [], .text ",\n", .text ""] : Document Empty)).render :=
  (interchangeable_of_rewrite (.join (.text ",\n") [.vertical [], .text ""]) _).2

end LayeredTree.Document
