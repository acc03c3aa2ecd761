import LayeredTree.Algebra
import LayeredTree.Proofs.Document.Levels
import LayeredTree.Proofs.Fold.FiniteTree

/-!
# Indented lines

The indenting builder glues line lists and indents them again at every group around them. In the end
a tree has one line and those that its groups add, every line stands on the level of the brackets
that are open before it, and spaces and newlines apart the lines read like the plain text. This is
shown for the lines of one layer, from those of its payloads, and so holds of the whole tree. It
takes names and literals that are words: a space at the beginning of one would look like
indentation, and a bracket in one like the bracket of a group.
-/

namespace LayeredTree

namespace Block

/-! ## Letters -/

/-- Characters without the spaces. -/
def unspaced (cs : List Char) : List Char := cs.filter (· != ' ')

/-- Characters without the spaces and newlines. -/
def bare (cs : List Char) : List Char := cs.filter fun c => c != ' ' && c != '\n'

@[simp] theorem unspaced_append (front back : List Char) :
    unspaced (front ++ back) = unspaced front ++ unspaced back := List.filter_append _ _

@[simp] theorem bare_append (front back : List Char) :
    bare (front ++ back) = bare front ++ bare back := List.filter_append _ _

end Block

open Block

/-! ## Words -/

/-- A text that is not empty, and has no space, newline or bracket in it. -/
structure Word (text : String) : Prop where
  ne_empty : text ≠ ""
  plain : ∀ c ∈ text.toList, c ≠ ' ' ∧ c ≠ '\n' ∧ c ≠ '\x7b' ∧ c ≠ '\x7d'

/-- A text of one character is a word, unless the character sets texts apart. -/
theorem word_of_toList {text : String} {c : Char} (h : text.toList = [c])
    (hc : c ≠ ' ' ∧ c ≠ '\n' ∧ c ≠ '\x7b' ∧ c ≠ '\x7d') : Word text where
  ne_empty := by
    rintro rfl
    cases h
  plain := by
    rw [h]
    exact List.forall_mem_singleton.2 hc

theorem Word.balance_eq_zero {text : String} (h : Word text) : balance text.toList = 0 :=
  Block.balance_eq_zero (fun hm => (h.plain _ hm).2.2.1 rfl) fun hm => (h.plain _ hm).2.2.2 rfl

theorem Word.tidy {text : String} (h : Word text) : Tidy [text] where
  ne_nil := List.cons_ne_nil _ _
  begins := by
    obtain ⟨c, rest, hl⟩ := List.exists_cons_of_ne_nil (mt String.toList_eq_nil_iff.1 h.ne_empty)
    obtain ⟨hs, -, -, hb⟩ := h.plain c (hl ▸ List.mem_cons_self)
    exact ⟨⟨0, c, rest, hl, hs, by rw [if_neg hb]; rfl⟩, trivial⟩
  balanced := (trails_singleton h.balance_eq_zero).balanced

theorem Word.unspaced_eq {text : String} (h : Word text) :
    unspaced (characters [text]) = bare text.toList := by
  rw [characters_cons, characters_nil, List.append_nil]
  refine List.filter_congr fun c hc => ?_
  rw [bne_iff_ne.2 (h.plain c hc).2.1, Bool.and_true]

/-! ## One layer -/

/-- The number of lines that a layer adds to those of its payloads: a group adds one for each member
and one for the closing bracket. -/
def Layer.addedLines {α : Type*} : Layer α → Nat
  | .group _ members => members.length + 1
  | _ => 0

/-- The number of lines that all groups of a tree add. -/
def Algebra.addedLines (layer : Layer Nat) : Nat :=
  layer.payloads.foldl (· + ·) layer.addedLines

namespace Builder

/-- The blocks that the indenting builder glues for a layer. -/
def indentingParts : Layer Block → List Block
  | .apply callee arguments => callee :: ["("] :: (arguments.intersperse [", "] ++ [[")"]])
  | .abstract parameters body => ["λ"] :: (parameters.intersperse [", "] ++ [[". "], body])
  | .assign name value => [[name], [" = "], value]
  | .var name => [[name]]
  | .literal value => [[value]]
  | .group label members => [label, Block.bracketed members]

/-- It does not matter that some of the blocks are glued before the others. -/
theorem assemble_indenting (layer : Layer Block) :
    indenting.assemble layer = glue (indentingParts layer) := by
  cases layer with
  | apply callee arguments =>
    have hw : glue [["("], glue (arguments.intersperse [", "]), [")"]] =
        glue (["("] :: (arguments.intersperse [", "] ++ [[")"]])) :=
      glue_append_glue [["("]] _ [[")"]]
    have hh := glue_append_glue [callee] (["("] :: (arguments.intersperse [", "] ++ [[")"]])) []
    rw [← hw, List.append_nil, List.append_nil] at hh
    exact hh
  | abstract parameters body => exact glue_append_glue [["λ"]] _ [[". "], body]
  | assign name value => rfl
  | var name => exact congrArg (fun line => [line]) String.empty_append.symm
  | literal value => exact congrArg (fun line => [line]) String.empty_append.symm
  | group label members =>
    exact congrArg (fun block => glue [label, block]) (glue_brackets members)

/-- Separators that take no line leave the parts all line breaks. -/
theorem foldl_breaks_intersperse (separator : String) (blocks : List Block) (start : Nat) :
    ((blocks.intersperse [separator]).map breaks).foldl (· + ·) start =
      (blocks.map breaks).foldl (· + ·) start := by
  induction blocks generalizing start with
  | nil => rfl
  | cons block blocks ih =>
    cases blocks with
    | nil => rfl
    | cons next blocks =>
      rw [List.intersperse_cons_cons, List.map_cons, List.map_cons, List.foldl_cons,
        List.foldl_cons, ih]
      rfl

/-- Blocks below each other have one line more for each line break in them. -/
theorem length_flatten {blocks : List Block} (h : ∀ block ∈ blocks, block ≠ []) (start : Nat) :
    start + blocks.flatten.length = (blocks.map breaks).foldl (· + ·) (start + blocks.length) := by
  induction blocks generalizing start with
  | nil => rfl
  | cons block blocks ih =>
    obtain ⟨hb, hr⟩ := List.forall_mem_cons.1 h
    have hl : block.length = block.breaks + 1 :=
      (Nat.sub_add_cancel (List.length_pos_iff.2 hb)).symm
    have hs :
        start + (blocks.length + 1) + block.breaks = start + block.length + blocks.length := by
      omega
    rw [List.flatten_cons, List.length_append, ← Nat.add_assoc, ih hr, List.map_cons,
      List.foldl_cons, List.length_cons, hs]

/-- The lines of a layer break where those of its payloads do, and where its group begins a line. -/
theorem length_assemble_indenting {layer : Layer Block} (h : ∀ block ∈ layer.payloads, block ≠ []) :
    (indenting.assemble layer).length = 1 + Algebra.addedLines (layer.map breaks) := by
  have hadd (start : Nat) (counts : List Nat) :
      counts.foldl (· + ·) (1 + start) = 1 + counts.foldl (· + ·) start := List.foldl_assoc
  have hone (counts : List Nat) : counts.foldl (· + ·) 1 = 1 + counts.foldl (· + ·) 0 :=
    hadd 0 counts
  rw [assemble_indenting, length_glue]
  cases layer with
  | apply callee arguments =>
    simp [indentingParts, Algebra.addedLines, Layer.addedLines, Layer.map, Layer.payloads,
      foldl_breaks_intersperse, breaks, ← hadd]
  | abstract parameters body =>
    simp [indentingParts, Algebra.addedLines, Layer.addedLines, Layer.map, Layer.payloads,
      foldl_breaks_intersperse, breaks, hone]
  | assign name value =>
    simp [indentingParts, Algebra.addedLines, Layer.addedLines, Layer.map, Layer.payloads, breaks]
  | var name => rfl
  | literal value => rfl
  | group label members =>
    have hl := length_flatten (List.forall_mem_cons.1 h).2 (1 + (1 + breaks label))
    have hs :
        1 + (members.length + 1 + breaks label) = 1 + (1 + breaks label) + members.length := by
      omega
    simp only [indentingParts, Algebra.addedLines, Layer.addedLines, Layer.map, Layer.payloads,
      List.map_cons, List.map_nil, List.foldl_cons, List.foldl_nil, List.length_map,
      breaks_bracketed]
    rw [← hadd, hs, ← hl]
    omega

/-- The lines of a layer stand on their own when its strings are words and the lines of its payloads
stand on their own. -/
theorem tidy_assemble_indenting {layer : Layer Block} (hs : ∀ text ∈ layer.strings, Word text)
    (hp : ∀ block ∈ layer.payloads, block.Tidy) : (indenting.assemble layer).Tidy := by
  have htrails : ∀ block ∈ layer.payloads, block.Trails := fun block hm => (hp block hm).trails
  have hcomma : Trails [", "] := trails_singleton rfl
  rw [assemble_indenting]
  cases layer with
  | apply callee arguments =>
    obtain ⟨-, harguments⟩ := List.forall_mem_cons.1 htrails
    refine (hp callee List.mem_cons_self).glue (List.forall_mem_cons.2 ⟨trails_singleton rfl, ?_⟩)
    exact List.forall_mem_append.2 ⟨forall_mem_intersperse hcomma harguments,
      List.forall_mem_singleton.2 (trails_singleton rfl)⟩
  | abstract parameters body =>
    obtain ⟨hparameters, hbody⟩ := List.forall_mem_append.1 htrails
    have hlambda : Word "λ" := word_of_toList rfl (by decide)
    refine hlambda.tidy.glue
      (List.forall_mem_append.2 ⟨forall_mem_intersperse hcomma hparameters, ?_⟩)
    exact List.forall_mem_cons.2 ⟨trails_singleton rfl, hbody⟩
  | assign name value =>
    have hname := (hs name List.mem_cons_self).tidy
    exact hname.glue (List.forall_mem_cons.2 ⟨trails_singleton rfl, htrails⟩)
  | var name => exact (hs name List.mem_cons_self).tidy.glue nofun
  | literal value => exact (hs value List.mem_cons_self).tidy.glue nofun
  | group label members =>
    obtain ⟨hlabel, hmembers⟩ := List.forall_mem_cons.1 hp
    exact hlabel.glue (List.forall_mem_singleton.2 (trails_bracketed hmembers))

/-! ## Letters -/

/-- Blocks with a separator between them hold the separator between what they hold. -/
theorem unspaced_intersperse (separator : String) (blocks : List Block) :
    unspaced ((blocks.intersperse [separator]).flatMap characters) =
      (unspaced separator.toList).intercalate
        (blocks.map fun block => unspaced block.characters) := by
  induction blocks with
  | nil => rfl
  | cons block blocks ih =>
    cases blocks with
    | nil => simp
    | cons next blocks =>
      rw [List.intersperse_cons_cons, List.flatMap_cons, List.flatMap_cons, unspaced_append,
        unspaced_append, ih]
      simp only [List.map_cons]
      rw [List.intercalate_cons_cons, List.append_assoc, characters_cons, characters_nil,
        List.append_nil]

/-- Texts with a separator between them hold the separator between what they hold. -/
theorem bare_intercalate (separator : String) (texts : List String) :
    bare (separator.intercalate texts).toList =
      (bare separator.toList).intercalate (texts.map fun text => bare text.toList) := by
  induction texts with
  | nil => rfl
  | cons text texts ih =>
    cases texts with
    | nil => simp
    | cons next texts =>
      rw [String.intercalate_cons_cons, String.toList_append, String.toList_append, bare_append,
        bare_append, ih]
      simp only [List.map_cons]
      rw [List.intercalate_cons_cons]

theorem unspaced_indent (block : Block) :
    unspaced (characters (block.map ("    " ++ ·))) = unspaced block.characters := by
  induction block with
  | nil => rfl
  | cons line block ih =>
    rw [List.map_cons, characters_cons, characters_cons, String.toList_append, unspaced_append,
      unspaced_append, unspaced_append, ih]
    rfl

theorem unspaced_flatten (blocks : List Block) :
    unspaced (characters blocks.flatten) =
      List.intercalate [] (blocks.map fun block => unspaced block.characters) := by
  induction blocks with
  | nil => rfl
  | cons block blocks ih =>
    rw [List.flatten_cons, characters_append, unspaced_append, ih, List.map_cons]
    cases blocks with
    | nil => simp
    | cons next blocks =>
      simp only [List.map_cons]
      rw [List.intercalate_cons_cons, List.append_nil]

section Items

variable {ι : Type*} {f : ι → Block} {g : ι → String} {items : List ι}

/-- Blocks with commas between them hold the letters of texts with commas between them. -/
theorem unspaced_items
    (h : ∀ item ∈ items, unspaced (f item).characters = bare (g item).toList) :
    unspaced (((items.map f).intersperse [", "]).flatMap characters) =
      bare (Algebra.commaList (items.map g)).toList := by
  rw [unspaced_intersperse, Algebra.commaList, bare_intercalate, List.map_map, List.map_map]
  exact congrArg (List.intercalate [',']) (List.map_congr_left h)

/-- Indented members hold the letters of texts with newlines between them. -/
theorem unspaced_members
    (h : ∀ item ∈ items, unspaced (f item).characters = bare (g item).toList) :
    unspaced (characters ((items.map f).flatten.map ("    " ++ ·))) =
      bare ("\n".intercalate (items.map g)).toList := by
  rw [unspaced_indent, unspaced_flatten, bare_intercalate, List.map_map, List.map_map]
  exact congrArg (List.intercalate []) (List.map_congr_left h)

end Items

/-- The indented lines of a layer hold the letters of its plain text when those of the payloads
hold theirs. -/
theorem unspaced_assemble_indenting {ι : Type*} {f : ι → Block} {g : ι → String} {layer : Layer ι}
    (hs : ∀ text ∈ layer.strings, Word text)
    (hp : ∀ item ∈ layer.payloads, unspaced (f item).characters = bare (g item).toList) :
    unspaced (indenting.assemble (layer.map f)).characters =
      bare (Algebra.plain (layer.map g)).toList := by
  rw [assemble_indenting, characters_glue]
  cases layer with
  | apply callee arguments =>
    obtain ⟨hcallee, harguments⟩ := List.forall_mem_cons.1 hp
    simp only [Layer.map, indentingParts, Algebra.plain, List.flatMap_cons, List.flatMap_append,
      List.flatMap_nil, unspaced_append, bare_append, String.toList_append, hcallee,
      unspaced_items harguments, List.append_assoc]
    rfl
  | abstract parameters body =>
    obtain ⟨hparameters, hbody⟩ := List.forall_mem_append.1 hp
    simp only [Layer.map, indentingParts, Algebra.plain, List.flatMap_cons, List.flatMap_append,
      List.flatMap_nil, unspaced_append, bare_append, String.toList_append,
      unspaced_items hparameters, hbody body List.mem_cons_self, List.append_nil,
      List.append_assoc]
    rfl
  | assign name value =>
    simp only [Layer.map, indentingParts, Algebra.plain, List.flatMap_cons, List.flatMap_nil,
      unspaced_append, bare_append, String.toList_append, (hs name List.mem_cons_self).unspaced_eq,
      hp value List.mem_cons_self, List.append_nil, List.append_assoc]
    rfl
  | var name =>
    simp only [Layer.map, indentingParts, Algebra.plain, List.flatMap_singleton,
      (hs name List.mem_cons_self).unspaced_eq]
  | literal value =>
    simp only [Layer.map, indentingParts, Algebra.plain, List.flatMap_singleton,
      (hs value List.mem_cons_self).unspaced_eq]
  | group label members =>
    obtain ⟨hlabel, hmembers⟩ := List.forall_mem_cons.1 hp
    simp only [Layer.map, indentingParts, Algebra.plain, bracketed, List.flatMap_cons,
      List.flatMap_nil, characters_cons, characters_append, unspaced_append, bare_append,
      String.toList_append, hlabel, unspaced_members hmembers, List.append_nil, List.append_assoc]
    rfl

end Builder

/-! ## Whole trees -/

namespace Tree

/-- The indented lines of a tree. -/
def lines (tree : Tree) : Block := tree.fold Builder.indenting.assemble

theorem lines_node (layer : Layer Tree) :
    (node layer).lines = Builder.indenting.assemble (layer.map lines) := fold_node _ _

/-- A string of a tree is one of its root or one of a child. -/
theorem mem_strings_node_iff {layer : Layer Tree} {text : String} :
    text ∈ (node layer).fold Algebra.strings ↔
      text ∈ layer.strings ∨ ∃ child ∈ layer.payloads, text ∈ child.fold Algebra.strings := by
  rw [fold_node, Algebra.strings, Layer.strings_map, Layer.payloads_map, List.mem_append,
    List.mem_flatten]
  simp only [List.mem_map, exists_exists_and_eq_and]

/-- The lines of a tree of words stand on their own. -/
theorem tidy_lines {tree : Tree} (h : ∀ text ∈ tree.fold Algebra.strings, Word text) :
    tree.lines.Tidy := by
  induction tree using Tree.induction with
  | node layer ih =>
    rw [lines_node]
    refine Builder.tidy_assemble_indenting (fun text hm => ?_) ?_
    · rw [Layer.strings_map] at hm
      exact h text (mem_strings_node_iff.2 (.inl hm))
    · rw [Layer.payloads_map]
      refine List.forall_mem_map.2 fun child hc => ih child hc fun text hm => ?_
      exact h text (mem_strings_node_iff.2 (.inr ⟨child, hc, hm⟩))

/-- Besides the first line, a tree has the lines that its groups add. -/
theorem length_lines (tree : Tree) : tree.lines.length = 1 + tree.fold Algebra.addedLines := by
  induction tree using Tree.induction with
  | node layer ih =>
    have hbreaks : (layer.map lines).map breaks = layer.map (fold Algebra.addedLines) := by
      rw [Layer.map_map, Layer.map_eq_map_iff_rel]
      refine (Layer.rel_eq_iff.2 rfl).with_mem.imp ?_
      rintro _ child ⟨rfl, hc⟩
      exact (congrArg (· - 1) (ih _ hc)).trans (Nat.add_sub_cancel_left 1 _)
    have hne : ∀ block ∈ (layer.map lines).payloads, block ≠ [] := by
      rw [Layer.payloads_map]
      refine List.forall_mem_map.2 fun child hc => ?_
      exact List.ne_nil_of_length_pos (by rw [ih child hc]; omega)
    rw [lines_node, Builder.length_assemble_indenting hne, hbreaks, fold_node]

/-- Without spaces and newlines, the lines of a tree of words are its plain text. -/
theorem unspaced_lines {tree : Tree} (h : ∀ text ∈ tree.fold Algebra.strings, Word text) :
    unspaced tree.lines.characters = bare (tree.fold Algebra.plain).toList := by
  induction tree using Tree.induction with
  | node layer ih =>
    rw [lines_node, fold_node]
    refine Builder.unspaced_assemble_indenting (fun text hm => ?_) fun child hc => ?_
    · exact h text (mem_strings_node_iff.2 (.inl hm))
    · exact ih child hc fun text hm => h text (mem_strings_node_iff.2 (.inr ⟨child, hc, hm⟩))

end Tree

variable {ε σ ν : Type} {τ : Type*}

/-- A finite tree of words has a line for each group member and group and one more, each indented by
four spaces per open bracket; without blanks the lines are the plain text. -/
theorem Forest.fold_indenting [BEq ν] [LawfulBEq ν] [Hashable ν] {forest : Forest ε σ ν}
    {view : τ → Layer τ} (meaning : forest.Interpretation view) {settings : Settings}
    {before later : σ} {root : ν} {tree : τ} {finite : Tree} (hs : meaning.stands before root tree)
    (ht : meaning.stands later root tree) (hu : Unfolds view tree finite)
    (hh : finite.height ≤ settings.maxDepth)
    (hw : ∀ text ∈ finite.fold Algebra.strings, Word text) :
    ∃ (lines : Block) (plain : String),
      (∃ after, forest.fold settings (.ofPure Builder.indenting.assemble) root before =
        .ok lines after) ∧
      (∃ after, forest.fold settings (.ofPure Algebra.plain) root later = .ok plain after) ∧
      lines.length = 1 + finite.fold Algebra.addedLines ∧ lines.Indented ∧
      unspaced lines.characters = bare plain.toList :=
  ⟨finite.lines, finite.fold Algebra.plain, Fold.fold_eq_ok_of_unfolds meaning _ hs hu hh,
    Fold.fold_eq_ok_of_unfolds meaning _ ht hu hh, finite.length_lines,
    (Tree.tidy_lines hw).begins.indented, Tree.unspaced_lines hw⟩

/-- A call of a group. The body of its first argument is a group that has a group as its label, and
another one as a member. -/
def nestedGroups : Fin 8 → Layer (Fin 8)
  | 0 => .apply 1 [2, 7]
  | 1 => .group 7 [7]
  | 2 => .abstract [7] 3
  | 3 => .group 4 [5, 6]
  | 4 => .group 7 []
  | 5 => .group 7 []
  | 6 => .abstract [] 7
  | 7 => .var "x"

/-- Behind the closing bracket of one group, a line may open another one. -/
theorem Forest.fold_indenting_nestedGroups :
    let lines : Block := ["x\x7b", "    x", "\x7d(λx. x\x7b", "\x7d\x7b", "    x\x7b", "    \x7d",
      "    λ. x", "\x7d, x)"]
    (∃ after, (Forest.renewing nestedGroups : Forest Empty Nat (Nat × Fin 8)).fold
        { maxDepth := 5 } (.ofPure Builder.indenting.assemble) (0, 0) 1 = .ok lines after) ∧
      lines.Indented := by
  intro lines
  let meaning : (Forest.renewing nestedGroups : Forest Empty Nat (Nat × Fin 8)).Interpretation
    nestedGroups := Forest.renewingInterpretation nestedGroups
  let x : Tree := .node (.var "x")
  let empty : Tree := .node (.group x [])
  let constant : Tree := .node (.abstract [] x)
  let body : Tree := .node (.group empty [empty, constant])
  let root : Tree := .node (.apply (.node (.group x [x])) [.node (.abstract [x] body), x])
  have hx : Unfolds nestedGroups 7 x := unfolds_node_iff.2 (.var "x")
  have hlabel : Unfolds nestedGroups 4 empty := unfolds_node_iff.2 (.group hx .nil)
  have hmember : Unfolds nestedGroups 5 empty := unfolds_node_iff.2 (.group hx .nil)
  have hconstant : Unfolds nestedGroups 6 constant := unfolds_node_iff.2 (.abstract .nil hx)
  have hbody : Unfolds nestedGroups 3 body :=
    unfolds_node_iff.2 (.group hlabel (.cons hmember (.cons hconstant .nil)))
  have hcallee : Unfolds nestedGroups 1 (.node (.group x [x])) :=
    unfolds_node_iff.2 (.group hx (.cons hx .nil))
  have hargument : Unfolds nestedGroups 2 (.node (.abstract [x] body)) :=
    unfolds_node_iff.2 (.abstract (.cons hx .nil) hbody)
  have hroot : Unfolds nestedGroups 0 root :=
    unfolds_node_iff.2 (.apply hcallee (.cons hargument (.cons hx .nil)))
  have hwords : ∀ text ∈ root.fold Algebra.strings, Word text := by
    intro text hm
    obtain rfl := List.eq_of_mem_replicate (show text ∈ List.replicate 7 "x" from hm)
    exact word_of_toList rfl (by decide)
  let settings : Settings := { maxDepth := 5 }
  have hs : meaning.stands 1 (0, 0) 0 := rfl
  have hh : root.height ≤ settings.maxDepth := by decide
  have hlines : root.fold Builder.indenting.assemble = lines := by decide +kernel
  obtain ⟨after, hl⟩ := Fold.fold_eq_ok_of_unfolds meaning Builder.indenting.assemble hs hroot hh
  obtain ⟨found, plain, ⟨last, hfound⟩, -, -, hi, -⟩ :=
    Forest.fold_indenting meaning hs hs hroot hh hwords
  rw [hlines] at hl
  rw [hl, EStateM.Result.ok.injEq] at hfound
  rw [← hfound.1] at hi
  exact ⟨⟨after, hl⟩, hi⟩

end LayeredTree
