import LayeredTree.Document.Layout
import Mathlib.Data.List.Forall2

/-!
# Laying out with a stack is laying out by recursion

The recursive layout enters the children of a document in layout order and then arranges their
blocks. A stack of the loop stands for the rest of such a recursion, and a step performs its first
part; so the loop gives the same block, or stops at the same thing that is no document.
-/

namespace LayeredTree.Document

variable {ω : Type}

/-- What passes on from the children of a document to the document holds of every document. -/
theorem induction {P : Document ω → Prop}
    (node : ∀ doc, (∀ docs, doc.children = .ok docs → ∀ child ∈ docs, P child) → P doc)
    (doc : Document ω) : P doc :=
  node doc fun _ hc child hm =>
    have := height_lt_of_mem_children hc hm
    induction node child
termination_by doc.height

/-! ## Layout by recursion -/

mutual

/-- Lay out a document by recursion. -/
def layOut : Document ω → Except ω Block
  | text content => .ok (Block.ofText content)
  | horizontal parts => do
    let blocks ← layOutAll parts
    return Block.glue blocks
  | vertical parts => do
    let blocks ← layOutAll parts
    return Block.stack blocks
  | join separator parts => do
    let between ← layOut separator
    let blocks ← layOutAll parts
    return Block.glue (blocks.intersperse between)
  | wrap opening body closing => do
    let first ← layOut opening
    let second ← layOut body
    let third ← layOut closing
    return Block.glue [first, second, third]
  | foreign thing => .error thing

/-- Lay out the documents of a list, from left to right. -/
def layOutAll : List (Document ω) → Except ω (List Block)
  | [] => .ok []
  | doc :: docs => do
    let block ← layOut doc
    let blocks ← layOutAll docs
    return block :: blocks

end

theorem layOutAll_eq_mapM (docs : List (Document ω)) : layOutAll docs = docs.mapM layOut := by
  induction docs with
  | nil => rfl
  | cons doc docs ih => rw [layOutAll, ih, List.mapM_cons]

/-- A document is laid out by entering its children in order and arranging their blocks. -/
theorem layOut_eq_arrange (doc : Document ω) :
    layOut doc = (do
      let pending ← doc.children
      let blocks ← pending.mapM layOut
      arrange doc blocks) := by
  cases doc with
  | text content => rfl
  | horizontal parts => rw [layOut, layOutAll_eq_mapM]; rfl
  | vertical parts => rw [layOut, layOutAll_eq_mapM]; rfl
  | join separator parts =>
    show _ = (separator :: parts).mapM layOut >>= arrange (join separator parts)
    rw [layOut, layOutAll_eq_mapM, List.mapM_cons]
    simp only [bind_assoc, pure_bind]
    rfl
  | wrap opening body closing =>
    show _ = [opening, body, closing].mapM layOut >>= arrange (wrap opening body closing)
    rw [layOut, List.mapM_cons, List.mapM_cons, List.mapM_cons, List.mapM_nil]
    simp only [bind_assoc, pure_bind]
    rfl
  | foreign thing => rfl

theorem layOut_of_children {doc : Document ω} {docs : List (Document ω)}
    (hc : doc.children = .ok docs) : layOut doc = docs.mapM layOut >>= arrange doc := by
  rw [layOut_eq_arrange, hc]
  rfl

section Failure

variable {α β : Type}

/-- An answer of a sequence comes from answers of both parts. -/
theorem exists_of_bind_eq_ok {action : Except ω α} {next : α → Except ω β} {answer : β}
    (h : (action >>= next) = .ok answer) :
    ∃ value, action = .ok value ∧ next value = .ok answer := by
  cases action with
  | ok value => exact ⟨value, rfl, h⟩
  | error thing => cases h

/-- A failure of a sequence comes from the first part, or from the rest after an answer. -/
theorem of_bind_eq_error {action : Except ω α} {next : α → Except ω β} {thing : ω}
    (h : (action >>= next) = .error thing) :
    action = .error thing ∨ ∃ value, action = .ok value ∧ next value = .error thing := by
  cases action with
  | ok value => exact .inr ⟨value, rfl, h⟩
  | error other =>
    cases h
    exact .inl rfl

/-- A run over a list has answers when each item has one. -/
theorem mapM_eq_ok_iff {f : α → Except ω β} {items : List α} {answers : List β} :
    items.mapM f = .ok answers ↔
      List.Forall₂ (fun item answer => f item = .ok answer) items answers := by
  induction items generalizing answers with
  | nil =>
    rw [List.mapM_nil, List.forall₂_nil_left_iff]
    exact ⟨fun h => (Except.ok.inj h).symm, fun h => congrArg Except.ok h.symm⟩
  | cons item items ih =>
    rw [List.mapM_cons]
    constructor
    · intro h
      obtain ⟨answer, ha, h⟩ := exists_of_bind_eq_ok h
      obtain ⟨rest, hr, h⟩ := exists_of_bind_eq_ok h
      obtain rfl := Except.ok.inj h
      exact .cons ha (ih.1 hr)
    · rintro (_ | ⟨ha, hr⟩)
      rw [ha, ih.2 hr]
      rfl

/-- Every item of a run over a list has an answer. -/
theorem exists_of_mem_of_mapM_eq_ok {f : α → Except ω β} {items : List α} {answers : List β}
    (h : items.mapM f = .ok answers) {item : α} (hm : item ∈ items) :
    ∃ answer ∈ answers, f item = .ok answer := by
  induction mapM_eq_ok_iff.1 h with
  | nil => exact absurd hm List.not_mem_nil
  | cons head tail ih =>
    rcases List.mem_cons.1 hm with rfl | hm
    · exact ⟨_, List.mem_cons_self, head⟩
    · exact List.exists_mem_cons_of_exists (ih (mapM_eq_ok_iff.2 tail) hm)

/-- Every answer of a run over a list is the answer of an item. -/
theorem exists_of_mem_answers_of_mapM_eq_ok {f : α → Except ω β} {items : List α}
    {answers : List β} (h : items.mapM f = .ok answers) {answer : β} (hm : answer ∈ answers) :
    ∃ item ∈ items, f item = .ok answer := by
  induction mapM_eq_ok_iff.1 h with
  | nil => exact absurd hm List.not_mem_nil
  | cons head tail ih =>
    rcases List.mem_cons.1 hm with rfl | hm
    · exact ⟨_, List.mem_cons_self, head⟩
    · exact List.exists_mem_cons_of_exists (ih (mapM_eq_ok_iff.2 tail) hm)

/-- A run over a list fails at the first item that fails. -/
theorem exists_of_mapM_eq_error {f : α → Except ω β} {items : List α} {thing : ω}
    (h : items.mapM f = .error thing) :
    ∃ front item back, items = front ++ item :: back ∧
      (∀ earlier ∈ front, ∃ answer, f earlier = .ok answer) ∧ f item = .error thing := by
  induction items with
  | nil => cases h
  | cons item items ih =>
    rw [List.mapM_cons] at h
    rcases of_bind_eq_error h with h | ⟨answer, ha, h⟩
    · exact ⟨[], item, items, rfl, nofun, h⟩
    rcases of_bind_eq_error h with h | ⟨rest, -, h⟩
    · obtain ⟨front, other, back, rfl, hf, ho⟩ := ih h
      exact ⟨item :: front, other, back, rfl, List.forall_mem_cons.2 ⟨⟨answer, ha⟩, hf⟩, ho⟩
    · cases h

end Failure

/-! ## Layout with a stack -/

namespace Layout

/-- Hand a block down to the frames that wait for it, the nearest first: each lays out its pending
children, arranges all its blocks and hands that down in turn. -/
def deliver : List (Frame ω) → Block → Except ω Block
  | [], block => .ok block
  | parent :: below, block => do
    let rest ← parent.pending.mapM layOut
    let block ← arrange parent.node ((block :: parent.blocks).reverse ++ rest)
    deliver below block

/-- What is still to do for a frame and the frames below it. -/
def resume (top : Frame ω) (below : List (Frame ω)) : Except ω Block := do
  let rest ← top.pending.mapM layOut
  let block ← arrange top.node (top.blocks.reverse ++ rest)
  deliver below block

/-- What is left to do after a step. -/
def Progress.resume : Progress ω → Except ω Block
  | .running top below => Layout.resume top below
  | .finished block => .ok block

/-- A step does the first part of what a stack stands for, and leaves the rest. -/
theorem resume_eq_step_bind (top : Frame ω) (below : List (Frame ω)) :
    resume top below = step top below >>= Progress.resume := by
  cases hp : top.pending with
  | nil =>
    simp only [resume, step, hp, List.mapM_nil, pure_bind, List.append_nil, bind_assoc]
    refine bind_congr fun block => ?_
    cases below <;> rfl
  | cons child pending =>
    simp only [resume, step, hp, enter, List.mapM_cons, bind_assoc, pure_bind,
      layOut_eq_arrange child]
    refine bind_congr fun children => ?_
    simp only [Progress.resume, resume, deliver, List.reverse_nil, List.nil_append,
      List.reverse_cons, List.append_assoc, List.singleton_append]

/-- The loop takes a step and goes on. -/
theorem run_eq_step_bind (top : Frame ω) (below : List (Frame ω)) :
    run top below = step top below >>= fun
      | .running next rest => run next rest
      | .finished block => .ok block := by
  rw [run]
  split
  case h_1 h => rw [h]; rfl
  case h_2 h => rw [h]; rfl
  case h_3 h => rw [h]; rfl

/-- The loop does what a stack stands for. -/
theorem run_eq_resume (top : Frame ω) (below : List (Frame ω)) :
    run top below = resume top below := by
  induction top, below using run.induct with
  | case1 top below next rest h ih =>
    rw [run_eq_step_bind, resume_eq_step_bind, h]
    exact ih
  | case2 top below block h => rw [run_eq_step_bind, resume_eq_step_bind, h]; rfl
  | case3 top below thing h => rw [run_eq_step_bind, resume_eq_step_bind, h]; rfl

end Layout

/-- The block of a document is the one that the recursion gives. -/
theorem block_eq_layOut (doc : Document ω) : doc.block = doc.layOut := by
  rw [block, layOut_eq_arrange, Layout.enter, bind_assoc]
  refine bind_congr fun pending => ?_
  rw [pure_bind, Layout.run_eq_resume]
  simp only [Layout.resume, Layout.deliver, List.reverse_nil, List.nil_append]
  refine bind_congr fun blocks => ?_
  exact bind_pure _

end LayeredTree.Document
