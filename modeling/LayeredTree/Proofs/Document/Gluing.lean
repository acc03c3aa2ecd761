import LayeredTree.Proofs.Document.Reading

/-!
# Gluing blocks

Two blocks are glued when the second goes on in the last line of the first. Gluing is associative,
and a block without lines changes nothing on either side; an empty line changes nothing behind a
block that has a line. So it does not matter in which order blocks are glued, nor whether some of
them have been glued before. The lines of a text behave in the same way.
-/

namespace LayeredTree.Block

/-- The first block, and the second one from the end of its last line on. -/
def goOn (upper : Block) : Block → Block
  | [] => upper
  | first :: rest => upper.dropLast ++ (upper.getLastD "" ++ first) :: rest

@[simp] theorem goOn_nil (upper : Block) : upper.goOn [] = upper := rfl

@[simp] theorem nil_goOn (lower : Block) : goOn [] lower = lower := by
  cases lower with
  | nil => rfl
  | cons first rest => exact congrArg (· :: rest) String.empty_append

theorem concat_goOn_cons (front : Block) (line first : String) (rest : Block) :
    (front ++ [line]).goOn (first :: rest) = front ++ (line ++ first) :: rest := by
  rw [goOn, List.dropLast_concat, List.getLastD_concat]

theorem goOn_ne_nil {upper lower : Block} (h : upper ≠ []) : upper.goOn lower ≠ [] := by
  cases lower with
  | nil => exact h
  | cons first rest => exact List.append_ne_nil_of_right_ne_nil _ (List.cons_ne_nil _ _)

/-- It does not matter which two of three blocks are glued first. -/
theorem goOn_assoc (first second third : Block) :
    (first.goOn second).goOn third = first.goOn (second.goOn third) := by
  rcases List.eq_nil_or_concat first with rfl | ⟨front, last, rfl⟩
  · rw [nil_goOn, nil_goOn]
  rw [List.concat_eq_append]
  cases third with
  | nil => rw [goOn_nil, goOn_nil]
  | cons line rest =>
    rcases second with _ | ⟨start, between⟩
    · rw [goOn_nil, nil_goOn]
    rcases List.eq_nil_or_concat between with rfl | ⟨middle, stop, rfl⟩
    · rw [concat_goOn_cons, concat_goOn_cons, ← List.nil_append [start], concat_goOn_cons,
        List.nil_append, concat_goOn_cons, String.append_assoc]
    · rw [List.concat_eq_append, concat_goOn_cons, ← List.cons_append, ← List.append_assoc,
        concat_goOn_cons, ← List.cons_append, concat_goOn_cons, List.cons_append,
        concat_goOn_cons, List.append_assoc, List.cons_append]

/-- An empty line leaves the last line as it is. -/
theorem goOn_empty_line {upper : Block} (h : upper ≠ []) : upper.goOn [""] = upper := by
  rcases List.eq_nil_or_concat upper with rfl | ⟨front, last, rfl⟩
  · exact absurd rfl h
  · rw [List.concat_eq_append, concat_goOn_cons, String.append_empty]

theorem empty_line_goOn {lower : Block} (h : lower ≠ []) : goOn [""] lower = lower := by
  cases lower with
  | nil => exact absurd rfl h
  | cons first rest => exact congrArg (· :: rest) String.empty_append

/-- A draft goes on with a block. -/
theorem block_extend (draft : Draft) (block : Block) :
    (draft.extend block).block = draft.block.goOn block := by
  cases block with
  | nil => rfl
  | cons first rest =>
    rw [Draft.extend, block_foldl_push, Draft.block_eq, Draft.block_eq, concat_goOn_cons,
      List.append_assoc, List.singleton_append]

instance : Std.Associative goOn := ⟨goOn_assoc⟩

/-- Several blocks, each going on where the one before ends. -/
def chain (blocks : List Block) : Block := blocks.foldl goOn []

@[simp] theorem chain_nil : chain [] = [] := rfl

theorem chain_cons (block : Block) (blocks : List Block) :
    chain (block :: blocks) = block.goOn (chain blocks) := by
  have h : blocks.foldl goOn (block.goOn []) = block.goOn (chain blocks) := List.foldl_assoc
  rwa [goOn_nil, ← nil_goOn block, ← List.foldl_cons, nil_goOn] at h

theorem chain_append (front back : List Block) :
    chain (front ++ back) = (chain front).goOn (chain back) := by
  induction front with
  | nil => exact (nil_goOn _).symm
  | cons block front ih => rw [List.cons_append, chain_cons, ih, chain_cons, goOn_assoc]

theorem chain_singleton (block : Block) : chain [block] = block := by
  rw [chain_cons, chain_nil, goOn_nil]

/-- Gluing starts with an empty line. -/
theorem glue_eq_goOn_chain (blocks : List Block) : glue blocks = goOn [""] (chain blocks) := by
  have hf (draft : Draft) : (blocks.foldl Draft.extend draft).block =
      draft.block.goOn (chain blocks) := by
    induction blocks generalizing draft with
    | nil => rfl
    | cons block blocks ih => rw [List.foldl_cons, ih, block_extend, goOn_assoc, chain_cons]
  exact hf {}

theorem glue_eq_chain {blocks : List Block} (h : chain blocks ≠ []) :
    glue blocks = chain blocks := by
  rw [glue_eq_goOn_chain, empty_line_goOn h]

/-- Glued blocks may be glued on as one block. -/
theorem glue_append_glue (front blocks back : List Block) :
    glue (front ++ [glue blocks] ++ back) = glue (front ++ blocks ++ back) := by
  have hf : goOn [""] (chain front) ≠ [] := goOn_ne_nil (List.cons_ne_nil _ _)
  calc glue (front ++ [glue blocks] ++ back)
    _ = (((goOn [""] (chain front)).goOn [""]).goOn (chain blocks)).goOn (chain back) := by
        rw [glue_eq_goOn_chain, chain_append, chain_append, chain_singleton, glue_eq_goOn_chain]
        simp only [goOn_assoc]
    _ = glue (front ++ blocks ++ back) := by
        rw [goOn_empty_line hf, glue_eq_goOn_chain, chain_append, chain_append]
        simp only [goOn_assoc]

/-! ## Lines without newlines -/

/-- No line has a newline in it. -/
def Unbroken (block : Block) : Prop := ∀ line ∈ block, '\n' ∉ line.toList

private theorem newline_not_mem_of_mem_splitOn {content line : List Char}
    (h : line ∈ content.splitOn '\n') : '\n' ∉ line := by
  induction content generalizing line with
  | nil =>
    rw [List.splitOn_nil, List.mem_singleton] at h
    rw [h]
    exact List.not_mem_nil
  | cons c content ih =>
    rw [List.splitOn_cons_eq_if_modifyHead] at h
    split at h
    next hc =>
      rcases List.mem_cons.1 h with rfl | h
      · exact List.not_mem_nil
      · exact ih h
    next hc =>
      obtain ⟨first, rest, hs⟩ := List.exists_cons_of_ne_nil (List.splitOn_ne_nil '\n' content)
      rw [hs, List.modifyHead_cons] at h
      rcases List.mem_cons.1 h with rfl | h
      · rintro (_ | ⟨_, hm⟩)
        · exact hc rfl
        · exact ih (hs ▸ List.mem_cons_self) hm
      · exact ih (hs ▸ List.mem_cons_of_mem _ h)

theorem unbroken_ofText (content : String) : (ofText content).Unbroken := by
  intro line h
  obtain ⟨cs, hc, rfl⟩ := List.mem_map.1 h
  rw [String.toList_ofList]
  exact newline_not_mem_of_mem_splitOn hc

theorem Unbroken.append {upper lower : Block} (hu : upper.Unbroken) (hl : lower.Unbroken) :
    (upper ++ lower).Unbroken :=
  List.forall_mem_append.2 ⟨hu, hl⟩

theorem Unbroken.goOn {upper lower : Block} (hu : upper.Unbroken) (hl : lower.Unbroken) :
    (upper.goOn lower).Unbroken := by
  rcases List.eq_nil_or_concat upper with rfl | ⟨front, last, rfl⟩
  · rwa [nil_goOn]
  rw [List.concat_eq_append] at hu ⊢
  cases lower with
  | nil => exact hu
  | cons first rest =>
    obtain ⟨hfront, hlast⟩ := List.forall_mem_append.1 hu
    obtain ⟨hfirst, hrest⟩ := List.forall_mem_cons.1 hl
    rw [concat_goOn_cons]
    refine Unbroken.append hfront (List.forall_mem_cons.2 ⟨?_, hrest⟩)
    rw [String.toList_append, List.mem_append, not_or]
    exact ⟨hlast last List.mem_cons_self, hfirst⟩

theorem Unbroken.chain {blocks : List Block} (h : ∀ block ∈ blocks, block.Unbroken) :
    (chain blocks).Unbroken := by
  induction blocks with
  | nil => exact nofun
  | cons block blocks ih =>
    obtain ⟨hb, hr⟩ := List.forall_mem_cons.1 h
    rw [chain_cons]
    exact hb.goOn (ih hr)

theorem Unbroken.glue {blocks : List Block} (h : ∀ block ∈ blocks, block.Unbroken) :
    (glue blocks).Unbroken := by
  rw [glue_eq_goOn_chain]
  exact Unbroken.goOn (List.forall_mem_singleton.2 List.not_mem_nil) (.chain h)

theorem Unbroken.stack {blocks : List Block} (h : ∀ block ∈ blocks, block.Unbroken) :
    (stack blocks).Unbroken := by
  intro line hl
  obtain ⟨block, hb, hl⟩ := List.mem_flatten.1 hl
  exact h block hb line hl

/-- What holds of a separator and of the items between which it is put holds of all of them. -/
theorem forall_mem_intersperse {P : Block → Prop} {between : Block} {blocks : List Block}
    (hs : P between) (h : ∀ block ∈ blocks, P block) :
    ∀ block ∈ blocks.intersperse between, P block := by
  induction blocks with
  | nil => exact nofun
  | cons block blocks ih =>
    obtain ⟨hb, hr⟩ := List.forall_mem_cons.1 h
    cases blocks with
    | nil => exact List.forall_mem_singleton.2 hb
    | cons next blocks =>
      rw [List.intersperse_cons_cons]
      exact List.forall_mem_cons.2 ⟨hb, List.forall_mem_cons.2 ⟨hs, ih hr⟩⟩

/-- Lines without newlines are the lines of their text. -/
theorem ofText_toText {block : Block} (h : block.Unbroken) (hb : block ≠ []) :
    ofText (toText block) = block := by
  have hm : ∀ cs ∈ block.map String.toList, '\n' ∉ cs := List.forall_mem_map.2 h
  have hs : String.ofList ∘ String.toList = id := funext fun _ => String.ofList_toList
  have hn : "\n".toList = ['\n'] := rfl
  rw [ofText, toText, String.toList_intercalate, hn,
    List.splitOn_intercalate '\n' hm (by simpa using hb), List.map_map, hs, List.map_id]

/-- Two glued blocks read as one text behind the other. -/
theorem toText_goOn (upper lower : Block) :
    toText (upper.goOn lower) = toText upper ++ toText lower := by
  rcases List.eq_nil_or_concat upper with rfl | ⟨front, last, rfl⟩
  · rw [nil_goOn, toText_nil, String.empty_append]
  · have h := toText_extend ⟨front.reverse, last⟩ lower
    rwa [block_extend, Draft.block_eq, List.reverse_reverse, ← List.concat_eq_append] at h

/-- The lines of two texts, one behind the other, are the lines of both, glued. -/
theorem ofText_append (front back : String) :
    ofText (front ++ back) = (ofText front).goOn (ofText back) := by
  have hu := (unbroken_ofText front).goOn (unbroken_ofText back)
  rw [← ofText_toText hu (goOn_ne_nil (ofText_ne_nil front)), toText_goOn, toText_ofText,
    toText_ofText]

/-- The lines of two texts with a newline between them are the lines of both, stacked. -/
theorem ofText_append_newline (upper lower : String) :
    ofText (upper ++ "\n" ++ lower) = ofText upper ++ ofText lower := by
  have hu := (unbroken_ofText upper).append (unbroken_ofText lower)
  rw [← ofText_toText hu (List.append_ne_nil_of_right_ne_nil _ (ofText_ne_nil lower)),
    toText_append (ofText_ne_nil upper) (ofText_ne_nil lower), toText_ofText, toText_ofText]

end LayeredTree.Block
