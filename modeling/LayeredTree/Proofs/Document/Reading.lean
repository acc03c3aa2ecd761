import LayeredTree.Document.Basic
import LayeredTree.Proofs.Document.Layout
import Mathlib.Data.List.Forall2

/-!
# What a laid out document reads as

The text of blocks that are glued is the concatenation of their texts, and the text of blocks that
are stacked has a newline between the texts of those with at least one line. A document without
foreign things therefore reads as its meaning says, and its block has no line exactly when it is
void.
-/

namespace LayeredTree

namespace Block

@[simp] theorem toText_nil : toText [] = "" := String.intercalate_nil

@[simp] theorem toText_singleton (line : String) : toText [line] = line :=
  String.intercalate_singleton

/-- Blocks with at least one line each are read with a newline between them. -/
theorem toText_append {upper lower : Block} (hu : upper ≠ []) (hl : lower ≠ []) :
    toText (upper ++ lower) = toText upper ++ "\n" ++ toText lower :=
  String.intercalate_append_of_ne_nil hu hl

/-- The lines of a text read as the text. -/
theorem toText_ofText (content : String) : toText (ofText content) = content := by
  apply String.toList_inj.1
  have hm : String.toList ∘ String.ofList = id := funext fun cs => String.toList_ofList
  rw [toText, ofText, String.toList_intercalate, List.map_map, hm, List.map_id]
  exact List.intercalate_splitOn '\n'

/-- A text has at least one line. -/
theorem ofText_ne_nil (content : String) : ofText content ≠ [] := by
  rw [ofText, Ne, List.map_eq_nil_iff]
  exact List.splitOn_ne_nil _ _

/-- A line that goes on with the first line of a block reads as the line and then the block. -/
private theorem toText_continue (line first : String) (rest : Block) :
    toText ((line ++ first) :: rest) = line ++ toText (first :: rest) :=
  String.intercalate_cons_append

theorem block_foldl_push (rest : Block) (draft : Draft) :
    (rest.foldl (fun draft line => (⟨draft.line :: draft.done, line⟩ : Draft)) draft).block =
      draft.block ++ rest := by
  induction rest generalizing draft with
  | nil => exact (List.append_nil _).symm
  | cons line rest ih =>
    rw [List.foldl_cons, ih]
    simp [Draft.block]

/-- The lines of a draft are the finished ones and the one in work. -/
theorem Draft.block_eq (draft : Draft) : draft.block = draft.done.reverse ++ [draft.line] :=
  List.reverse_cons

/-- A draft extended by a block reads as the draft and then the block. -/
theorem toText_extend (draft : Draft) (block : Block) :
    toText (draft.extend block).block = toText draft.block ++ toText block := by
  cases block with
  | nil => rw [Draft.extend, toText_nil, String.append_empty]
  | cons first rest =>
    rw [Draft.extend, block_foldl_push, Draft.block_eq, Draft.block_eq, List.append_assoc,
      List.singleton_append]
    by_cases hd : draft.done.reverse = []
    · rw [hd, List.nil_append, List.nil_append, toText_continue, toText_singleton]
    · rw [toText_append hd (List.cons_ne_nil _ _), toText_append hd (List.cons_ne_nil _ _),
        toText_continue, toText_singleton]
      simp only [String.append_assoc]

/-- Glued blocks read as their texts one behind the other. -/
theorem toText_glue (blocks : List Block) :
    toText (glue blocks) = String.join (blocks.map toText) := by
  have hf (draft : Draft) : toText (blocks.foldl Draft.extend draft).block =
      toText draft.block ++ String.join (blocks.map toText) := by
    induction blocks generalizing draft with
    | nil => simp
    | cons block blocks ih =>
      rw [List.foldl_cons, ih, toText_extend, List.map_cons, String.join_cons,
        String.append_assoc]
  rw [glue, hf]
  rfl

/-- Gluing gives at least one line. -/
theorem glue_ne_nil (blocks : List Block) : glue blocks ≠ [] := by
  rw [glue, Draft.block_eq]
  exact List.append_ne_nil_of_right_ne_nil _ (List.cons_ne_nil _ _)

/-- Parts with a separator between them, one behind the other, read as the separated texts. -/
theorem toText_glue_intersperse (between : Block) (blocks : List Block) :
    toText (glue (blocks.intersperse between)) =
      (toText between).intercalate (blocks.map toText) := by
  rw [toText_glue]
  induction blocks with
  | nil => rfl
  | cons block blocks ih =>
    cases blocks with
    | nil => simp
    | cons next blocks =>
      rw [List.intersperse_cons_cons, List.map_cons, List.map_cons, String.join_cons,
        String.join_cons, ih, List.map_cons, List.map_cons, List.map_cons,
        String.intercalate_cons_cons, String.append_assoc]

/-- A stack has no line when none of its blocks has one. -/
theorem stack_eq_nil_iff {blocks : List Block} :
    stack blocks = [] ↔ ∀ block ∈ blocks, block = [] :=
  List.flatten_eq_nil_iff

/-- Stacked blocks read as their texts with newlines between them, but for blocks without a
line. -/
theorem toText_stack (blocks : List Block) :
    toText (stack blocks) =
      "\n".intercalate ((blocks.filter fun block => !block.isEmpty).map toText) := by
  induction blocks with
  | nil => rfl
  | cons block blocks ih =>
    have hs : stack (block :: blocks) = block ++ stack blocks := List.flatten_cons
    rw [hs, List.filter_cons]
    by_cases hb : block = []
    · subst hb
      exact ih
    · have he : (!block.isEmpty) = true := by simpa using hb
      rw [if_pos he, List.map_cons]
      by_cases hr : stack blocks = []
      · have hn : blocks.filter (fun block => !block.isEmpty) = [] := by
          rw [List.filter_eq_nil_iff]
          intro other ho
          simp [stack_eq_nil_iff.1 hr other ho]
        rw [hr, hn, List.append_nil, List.map_nil, String.intercalate_singleton]
      · have hn : (blocks.filter fun block => !block.isEmpty).map toText ≠ [] := by
          rw [Ne, List.map_eq_nil_iff, List.filter_eq_nil_iff]
          intro h
          refine hr (stack_eq_nil_iff.2 fun other ho => ?_)
          simpa using h other ho
        rw [toText_append hb hr, ih, String.intercalate_cons_of_ne_nil hn]

end Block

namespace Document

variable {ω : Type}

/-- A block is what a document lays out to: it reads as the meaning, and it has a line unless the
document is void. -/
structure Reads (block : Block) (doc : Document ω) : Prop where
  /-- The lines read as the document's meaning. -/
  text : block.toText = doc.meaning
  /-- Only void documents have no line. -/
  empty : block = [] ↔ doc.isVoid = true

section Lists

variable {blocks : List Block} {docs : List (Document ω)}

/-- Blocks of several documents read as their meanings. -/
theorem map_toText_of_reads (h : List.Forall₂ Reads blocks docs) :
    blocks.map Block.toText = meanings docs := by
  induction h with
  | nil => rfl
  | cons head _ ih => rw [List.map_cons, meanings, head.text, ih]

/-- Blocks with at least one line read as the meanings of the documents that are not void. -/
theorem map_toText_filter_of_reads (h : List.Forall₂ Reads blocks docs) :
    (blocks.filter fun block => !block.isEmpty).map Block.toText = solidMeanings docs := by
  induction h with
  | nil => rfl
  | @cons block doc blocks docs head _ ih =>
    rw [List.filter_cons, solidMeanings]
    by_cases hb : block = []
    · rw [if_pos (head.empty.1 hb), hb]
      exact ih
    · have hv : doc.isVoid ≠ true := fun h => hb (head.empty.2 h)
      rw [if_neg hv, if_pos (by simpa using hb), List.map_cons, head.text, ih]

/-- No block of a list has a line when all the documents are void. -/
theorem forall_eq_nil_iff_of_reads (h : List.Forall₂ Reads blocks docs) :
    (∀ block ∈ blocks, block = []) ↔ allVoid docs = true := by
  induction h with
  | nil => simp [allVoid]
  | cons head _ ih => rw [List.forall_mem_cons, allVoid, Bool.and_eq_true, head.empty, ih]

end Lists

mutual

/-- The block that a document lays out to reads as the document's meaning. -/
theorem reads_of_layOut {block : Block} :
    (doc : Document ω) → doc.layOut = .ok block → Reads block doc
  | text content, h => by
    cases h
    exact ⟨Block.toText_ofText content, by simp [Block.ofText_ne_nil, isVoid]⟩
  | horizontal parts, h => by
    obtain ⟨blocks, hb, h⟩ := exists_of_bind_eq_ok h
    cases h
    have hr := reads_of_layOutAll parts hb
    refine ⟨?_, by simp [Block.glue_ne_nil, isVoid]⟩
    rw [Block.toText_glue, map_toText_of_reads hr, meaning]
  | vertical parts, h => by
    obtain ⟨blocks, hb, h⟩ := exists_of_bind_eq_ok h
    cases h
    have hr := reads_of_layOutAll parts hb
    refine ⟨?_, ?_⟩
    · rw [Block.toText_stack, map_toText_filter_of_reads hr, meaning]
    · rw [Block.stack_eq_nil_iff, forall_eq_nil_iff_of_reads hr, isVoid]
  | join separator parts, h => by
    obtain ⟨between, hs, h⟩ := exists_of_bind_eq_ok h
    obtain ⟨blocks, hb, h⟩ := exists_of_bind_eq_ok h
    cases h
    have hr := reads_of_layOutAll parts hb
    refine ⟨?_, by simp [Block.glue_ne_nil, isVoid]⟩
    rw [Block.toText_glue_intersperse, map_toText_of_reads hr,
      (reads_of_layOut separator hs).text, meaning]
  | wrap opening body closing, h => by
    obtain ⟨first, ho, h⟩ := exists_of_bind_eq_ok h
    obtain ⟨second, hb, h⟩ := exists_of_bind_eq_ok h
    obtain ⟨third, hc, h⟩ := exists_of_bind_eq_ok h
    cases h
    refine ⟨?_, by simp [Block.glue_ne_nil, isVoid]⟩
    rw [Block.toText_glue, List.map_cons, List.map_cons, List.map_cons, List.map_nil,
      (reads_of_layOut opening ho).text, (reads_of_layOut body hb).text,
      (reads_of_layOut closing hc).text, meaning]
    simp [String.append_assoc]
  | foreign thing, h => by cases h

/-- The blocks that several documents lay out to read as their meanings. -/
theorem reads_of_layOutAll {blocks : List Block} :
    (docs : List (Document ω)) → layOutAll docs = .ok blocks → List.Forall₂ Reads blocks docs
  | [], h => by
    cases h
    exact .nil
  | doc :: docs, h => by
    obtain ⟨block, hd, h⟩ := exists_of_bind_eq_ok h
    obtain ⟨blocks, hb, h⟩ := exists_of_bind_eq_ok h
    cases h
    exact .cons (reads_of_layOut doc hd) (reads_of_layOutAll docs hb)

end

/-- Where a document is laid out as text, the text is its meaning. -/
theorem eq_meaning_of_render {doc : Document ω} {content : String}
    (h : doc.render = .ok content) : content = doc.meaning := by
  obtain ⟨block, hb, h⟩ := exists_of_bind_eq_ok h
  cases h
  rw [block_eq_layOut] at hb
  exact (reads_of_layOut doc hb).text

end Document

end LayeredTree
