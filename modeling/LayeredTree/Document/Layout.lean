import LayeredTree.Agenda
import LayeredTree.Document.Basic

/-!
# Laying out documents with an explicit stack

The stack holds the nodes on the path to the document in work, each with the children that are
still to lay out and the blocks of those that are done. One step goes down into the next child or
arranges the blocks of the top node into its own block. A thing that is no document stops the
layout when it is entered, so the first one in pre-order is reported.
-/

namespace LayeredTree.Document

variable {ω : Type}

/-- The block of a node from the blocks of its children. -/
def arrange : Document ω → List Block → Except ω Block
  | text content, _ => .ok (Block.ofText content)
  | horizontal _, blocks => .ok (Block.glue blocks)
  | vertical _, blocks => .ok (Block.stack blocks)
  | join _ _, [] => .ok (Block.glue [])
  | join _ _, separator :: blocks => .ok (Block.glue (blocks.intersperse separator))
  | wrap _ _ _, blocks => .ok (Block.glue blocks)
  | foreign thing, _ => .error thing

namespace Layout

/-- A document whose children are being laid out. -/
structure Frame (ω : Type) where
  /-- The document itself. -/
  node : Document ω
  /-- The children that are still to lay out. -/
  pending : List (Document ω)
  /-- The blocks of the children laid out so far, the latest first. -/
  blocks : List Block

/-- What a step leads to. -/
inductive Progress (ω : Type) where
  | running (top : Frame ω) (below : List (Frame ω))
  | finished (block : Block)

/-- The frame of a document that has just been entered. -/
def enter (doc : Document ω) : Except ω (Frame ω) := do
  let pending ← doc.children
  return ⟨doc, pending, []⟩

/-- One step of the layout. -/
def step (top : Frame ω) (below : List (Frame ω)) : Except ω (Progress ω) :=
  match top.pending with
  | child :: pending => do
    let frame ← enter child
    return .running frame ({ top with pending } :: below)
  | [] => do
    let block ← arrange top.node top.blocks.reverse
    match below with
    | parent :: below => return .running { parent with blocks := block :: parent.blocks } below
    | [] => return .finished block

/-- The tasks of a frame: its children, and the frame itself. -/
def Frame.ranks (frame : Frame ω) : List Nat := frame.pending.map height ++ [0]

/-- The tasks of all frames. A child ranks above its own children. -/
def agenda (top : Frame ω) (below : List (Frame ω)) : Agenda :=
  ⟨top.ranks ++ below.flatMap Frame.ranks⟩

/-- The children of a document are the tasks of its first frame. -/
theorem pending_of_enter {doc : Document ω} {frame : Frame ω} (h : enter doc = .ok frame) :
    doc.children = .ok frame.pending := by
  unfold enter at h
  cases hc : doc.children with
  | error thing => simp [hc, bind, Except.bind] at h
  | ok pending =>
    simp only [hc, bind, Except.bind, pure, Except.pure] at h
    cases h
    rfl

theorem height_pos (doc : Document ω) : 0 < doc.height := by
  cases doc <;> simp [height]

/-- Every step makes the agenda smaller. -/
theorem step_shrinks {top next : Frame ω} {below rest : List (Frame ω)}
    (h : step top below = .ok (.running next rest)) :
    Agenda.Shrinks (agenda next rest) (agenda top below) := by
  cases hp : top.pending with
  | cons child pending =>
    simp only [step, hp, bind, Except.bind, pure, Except.pure] at h
    split at h <;> cases h
    next he =>
    refine ⟨child.height, pending.map height ++ 0 :: below.flatMap Frame.ranks, next.ranks,
      ?_, ?_, ?_⟩
    · simp [agenda, Frame.ranks, hp]
    · simp [agenda, Frame.ranks]
    · intro rank hr
      simp only [Frame.ranks, List.mem_append, List.mem_map, List.mem_singleton] at hr
      rcases hr with ⟨doc, hd, rfl⟩ | rfl
      · exact height_lt_of_mem_children (pending_of_enter he) hd
      · exact height_pos child
  | nil =>
    simp only [step, hp, bind, Except.bind, pure, Except.pure] at h
    split at h
    · cases h
    · cases below with
      | nil => cases h
      | cons parent below =>
        cases h
        exact ⟨0, (parent :: rest).flatMap Frame.ranks, [],
          by simp [agenda, Frame.ranks, hp], by simp [agenda, Frame.ranks], by simp⟩

/-- Take steps until the root is arranged or a thing that is no document is entered. -/
def run (top : Frame ω) (below : List (Frame ω)) : Except ω Block :=
  match _h : step top below with
  | .ok (.running next rest) => run next rest
  | .ok (.finished block) => .ok block
  | .error thing => .error thing
termination_by agenda top below
decreasing_by exact step_shrinks _h

end Layout

/-- Lay out a document as a block of lines. -/
def block (doc : Document ω) : Except ω Block := do
  Layout.run (← Layout.enter doc) []

/-- Lay out a document as text. -/
def render (doc : Document ω) : Except ω String := do
  return (← doc.block).toText

end LayeredTree.Document
