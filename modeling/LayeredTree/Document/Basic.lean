/-!
# Documents and blocks of lines

A document is text laid out by five kinds of node. A position of a document may also hold a thing
that is no document; such a thing carries a mark of type `ω`, and a document over the empty type
has none. A document is laid out as a block, which is a list of lines without their newlines, and
reads as the text of the block. The empty block differs from that of one empty line: below other
blocks it leaves no trace. A document is void when it is a stack of void parts only.
-/

universe u

namespace LayeredTree

/-! ## Blocks of lines -/

/-- Lines of text, from top to bottom. -/
abbrev Block := List String

namespace Block

/-- The lines of a text: at least one, and one more for each newline. -/
def ofText (content : String) : Block := (content.toList.splitOn '\n').map String.ofList

/-- A block under construction: finished lines, the latest first, and the line in work. -/
structure Draft where
  /-- The finished lines, the latest first. -/
  done : List String := []
  /-- The line that the next block goes on with. -/
  line : String := ""

/-- Go on with a block: its first line continues the line in work. -/
def Draft.extend (draft : Draft) : Block → Draft
  | [] => draft
  | first :: rest =>
    rest.foldl (fun draft line => ⟨draft.line :: draft.done, line⟩)
      ⟨draft.done, draft.line ++ first⟩

/-- The lines of a draft. -/
def Draft.block (draft : Draft) : Block := (draft.line :: draft.done).reverse

/-- Blocks one behind the other, each going on in the last line of the one before. Empty blocks
are passed over, and the result has at least one line. -/
def glue (blocks : List Block) : Block := (blocks.foldl Draft.extend {}).block

/-- Blocks one below the other. -/
def stack (blocks : List Block) : Block := blocks.flatten

/-- The text of a block, with newlines between the lines. -/
def toText (block : Block) : String := "\n".intercalate block

end Block

/-! ## Documents -/

/-- A document, in which things of type `ω` may stand where a document belongs. -/
inductive Document (ω : Type u) where
  /-- Text, in which a newline ends a line. -/
  | text (content : String)
  /-- Parts one behind the other: each goes on where the last line of the one before ends. -/
  | horizontal (parts : List (Document ω))
  /-- Parts one below the other: each starts a new line. -/
  | vertical (parts : List (Document ω))
  /-- Parts one behind the other with a separator between them. -/
  | join (separator : Document ω) (parts : List (Document ω))
  /-- A body between an opening and a closing document. -/
  | wrap (opening body closing : Document ω)
  /-- Something that is no document. -/
  | foreign (thing : ω)
  deriving Repr

namespace Document

variable {ω : Type u}

/-- The documents that a node lays out, in layout order: the separator of a join comes first. A
thing that is no document has no answer but itself. -/
def children : Document ω → Except ω (List (Document ω))
  | text _ => .ok []
  | horizontal parts => .ok parts
  | vertical parts => .ok parts
  | join separator parts => .ok (separator :: parts)
  | wrap opening body closing => .ok [opening, body, closing]
  | foreign thing => .error thing

mutual

/-- The number of nodes on the longest path from the root. -/
def height : Document ω → Nat
  | text _ => 1
  | horizontal parts => heightAll parts + 1
  | vertical parts => heightAll parts + 1
  | join separator parts => max (height separator) (heightAll parts) + 1
  | wrap opening body closing => max (height opening) (max (height body) (height closing)) + 1
  | foreign _ => 1

/-- The largest height in a list of documents. -/
def heightAll : List (Document ω) → Nat
  | [] => 0
  | doc :: docs => max (height doc) (heightAll docs)

end

theorem height_le_heightAll {doc : Document ω} {docs : List (Document ω)} (h : doc ∈ docs) :
    doc.height ≤ heightAll docs := by
  induction docs with
  | nil => cases h
  | cons head tail ih =>
    rw [heightAll]
    rcases List.mem_cons.1 h with rfl | h
    · exact Nat.le_max_left ..
    · exact Nat.le_trans (ih h) (Nat.le_max_right ..)

/-- A child is lower than its parent. -/
theorem height_lt_of_mem_children {doc child : Document ω} {docs : List (Document ω)}
    (hc : doc.children = .ok docs) (h : child ∈ docs) : child.height < doc.height := by
  cases doc <;> cases hc <;> simp only [height]
  case text => cases h
  case horizontal => exact Nat.lt_succ_of_le (height_le_heightAll h)
  case vertical => exact Nat.lt_succ_of_le (height_le_heightAll h)
  case join =>
    rcases List.mem_cons.1 h with rfl | h
    · omega
    · have := height_le_heightAll h
      omega
  case wrap =>
    simp only [List.mem_cons, List.not_mem_nil, or_false] at h
    rcases h with rfl | rfl | rfl <;> omega

mutual

/-- Two documents are built alike, where `same` compares the things that are no documents. -/
def agrees (same : ω → ω → Bool) : Document ω → Document ω → Bool
  | text left, text right => left == right
  | horizontal left, horizontal right => agreeAll same left right
  | vertical left, vertical right => agreeAll same left right
  | join separator left, join separator' right =>
    agrees same separator separator' && agreeAll same left right
  | wrap opening body closing, wrap opening' body' closing' =>
    agrees same opening opening' && agrees same body body' && agrees same closing closing'
  | foreign left, foreign right => same left right
  | _, _ => false

/-- Two lists of documents have the same length and are built alike position by position. -/
def agreeAll (same : ω → ω → Bool) : List (Document ω) → List (Document ω) → Bool
  | [], [] => true
  | left :: lefts, right :: rights => agrees same left right && agreeAll same lefts rights
  | _, _ => false

end

/-! ## What a document reads as -/

mutual

/-- A stack all of whose parts are void, and nothing else, is void. -/
def isVoid : Document ω → Bool
  | vertical parts => allVoid parts
  | _ => false

/-- All documents of a list are void. -/
def allVoid : List (Document ω) → Bool
  | [] => true
  | doc :: docs => isVoid doc && allVoid docs

end

mutual

/-- The text that a document reads as. A thing that is no document reads as nothing. -/
def meaning : Document ω → String
  | text content => content
  | horizontal parts => String.join (meanings parts)
  | vertical parts => "\n".intercalate (solidMeanings parts)
  | join separator parts => (meaning separator).intercalate (meanings parts)
  | wrap opening body closing => meaning opening ++ meaning body ++ meaning closing
  | foreign _ => ""

/-- The texts of the documents of a list. -/
def meanings : List (Document ω) → List String
  | [] => []
  | doc :: docs => meaning doc :: meanings docs

/-- The texts of those documents of a list that are not void. -/
def solidMeanings : List (Document ω) → List String
  | [] => []
  | doc :: docs => if isVoid doc then solidMeanings docs else meaning doc :: solidMeanings docs

end

end Document

end LayeredTree
