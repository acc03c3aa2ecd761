import LayeredTree.Algebra
import LayeredTree.Proofs.Fold.FiniteTree

/-!
# Debug texts are uniquely readable

The debug text of a tree is made of keywords, brackets and the strings of the tree as they are. It
can still be read in one way only, as long as no string holds the mark that ends it: a closing
bracket in a name that is referred to or in a literal, a comma in a name that is assigned. Whatever
text follows a debug text, it is clear where the debug text ends and what tree it stands for. So no
debug text is the beginning of another one, and trees with the same debug text are the same.
-/

universe u

namespace LayeredTree

/-! ## Strings that end where they seem to end -/

/-- The strings of a layer do not hold the marks that end them in a debug text. -/
def Layer.isReadable {α : Type u} : Layer α → Bool
  | .assign name _ => !name.toList.contains ','
  | .var name => !name.toList.contains ')'
  | .literal value => !value.toList.contains ')'
  | _ => true

/-- No string in a tree holds the mark that ends it in a debug text. -/
def Tree.isReadable (tree : Tree) : Bool :=
  tree.fold fun layer => layer.isReadable && layer.payloads.all id

theorem Layer.isReadable_map {α β : Type*} (f : α → β) (layer : Layer α) :
    (layer.map f).isReadable = layer.isReadable := by
  cases layer <;> rfl

/-- The strings in a tree are those at its root and those in its children. -/
theorem Tree.isReadable_node_iff {layer : Layer Tree} :
    (node layer).isReadable = true ↔
      layer.isReadable = true ∧ ∀ child ∈ layer.payloads, child.isReadable = true := by
  rw [isReadable, fold_node, Layer.isReadable_map, Layer.payloads_map, Bool.and_eq_true,
    List.all_map, List.all_eq_true]
  rfl

private theorem append_mark_inj {mark : Char} {front front' rest rest' : List Char}
    (hf : mark ∉ front) (hf' : mark ∉ front')
    (he : front ++ mark :: rest = front' ++ mark :: rest') : front = front' ∧ rest = rest' := by
  induction front generalizing front' with
  | nil =>
    cases front' with
    | nil => exact ⟨rfl, List.tail_eq_of_cons_eq he⟩
    | cons c front' => exact absurd (List.head_eq_of_cons_eq he ▸ List.mem_cons_self) hf'
  | cons c front ih =>
    cases front' with
    | nil => exact absurd (List.head_eq_of_cons_eq he ▸ List.mem_cons_self) hf
    | cons c' front' =>
      obtain ⟨rfl, htail⟩ := List.cons.inj he
      obtain ⟨rfl, hr⟩ :=
        ih (List.not_mem_of_not_mem_cons hf) (List.not_mem_of_not_mem_cons hf') htail
      exact ⟨rfl, hr⟩

/-- A string that does not hold a mark ends where the mark comes first. -/
theorem eq_of_append_mark_eq {mark : Char} {string string' : String} {rest rest' : List Char}
    (hs : (!string.toList.contains mark) = true) (hs' : (!string'.toList.contains mark) = true)
    (he : string.toList ++ mark :: rest = string'.toList ++ mark :: rest') :
    string = string' ∧ rest = rest' := by
  rw [Bool.not_eq_true', ← Bool.not_eq_true, List.contains_iff_mem] at hs hs'
  obtain ⟨hc, hr⟩ := append_mark_inj hs hs' he
  exact ⟨String.toList_inj.1 hc, hr⟩

/-! ## Items that their texts tell apart -/

section Items

variable {ι : Type u} {text : ι → String}

/-- The texts of two items tell them apart, and tell where they end, whatever follows. -/
def ToldApart (text : ι → String) (a b : ι) : Prop :=
  ∀ ⦃rest rest' : List Char⦄, (text a).toList ++ rest = (text b).toList ++ rest' →
    a = b ∧ rest = rest'

namespace Algebra

variable {xs ys : List ι} {rest rest' : List Char}

/-- In a list with commas, each part but the first comes after a comma. -/
theorem toList_commaList_cons (part : String) (parts : List String) :
    (commaList (part :: parts)).toList =
      part.toList ++ parts.flatMap fun other => ',' :: ' ' :: other.toList := by
  induction parts generalizing part with
  | nil => rw [commaList, String.intercalate_singleton, List.flatMap_nil, List.append_nil]
  | cons other parts ih =>
    rw [commaList, String.intercalate_cons_cons, String.toList_append, String.toList_append,
      ← commaList, ih, List.flatMap_cons, List.append_assoc]
    rfl

/-- The items of a list are told apart when each of them comes after a comma. -/
theorem eq_of_flatMap_comma_eq (h : ∀ x ∈ xs, ∀ y ∈ ys, ToldApart text x y)
    (he : (xs.flatMap fun x => ',' :: ' ' :: (text x).toList) ++ ']' :: rest =
      (ys.flatMap fun y => ',' :: ' ' :: (text y).toList) ++ ']' :: rest') :
    xs = ys ∧ rest = rest' := by
  induction xs generalizing ys with
  | nil =>
    cases ys with
    | nil => exact ⟨rfl, List.tail_eq_of_cons_eq he⟩
    | cons y ys => simp at he
  | cons x xs ih =>
    cases ys with
    | nil => simp at he
    | cons y ys =>
      simp only [List.flatMap_cons, List.cons_append, List.append_assoc, List.cons.injEq,
        true_and] at he
      obtain ⟨rfl, htail⟩ := h x List.mem_cons_self y List.mem_cons_self he
      obtain ⟨rfl, hr⟩ := ih (fun a ha b hb => h a (.tail _ ha) b (.tail _ hb)) htail
      exact ⟨rfl, hr⟩

/-- The items of a bracketed list with commas are told apart, unless the text of an item could be
taken for the closing bracket of an empty list. -/
theorem eq_of_commaList_eq
    (hn : ∀ item tail tail', (text item).toList ++ tail ≠ ']' :: tail')
    (h : ∀ x ∈ xs, ∀ y ∈ ys, ToldApart text x y)
    (he : (commaList (xs.map text)).toList ++ ']' :: rest =
      (commaList (ys.map text)).toList ++ ']' :: rest') : xs = ys ∧ rest = rest' := by
  cases xs with
  | nil =>
    cases ys with
    | nil => exact ⟨rfl, List.tail_eq_of_cons_eq he⟩
    | cons y ys =>
      rw [List.map_cons, toList_commaList_cons, List.append_assoc] at he
      exact absurd he.symm (hn _ _ _)
  | cons x xs =>
    cases ys with
    | nil =>
      rw [List.map_cons, toList_commaList_cons, List.append_assoc] at he
      exact absurd he (hn _ _ _)
    | cons y ys =>
      rw [List.map_cons, List.map_cons, toList_commaList_cons, toList_commaList_cons,
        List.append_assoc, List.append_assoc, List.flatMap_map, List.flatMap_map] at he
      obtain ⟨rfl, htail⟩ := h x List.mem_cons_self y List.mem_cons_self he
      obtain ⟨rfl, hr⟩ :=
        eq_of_flatMap_comma_eq (fun a ha b hb => h a (.tail _ ha) b (.tail _ hb)) htail
      exact ⟨rfl, hr⟩

/-- An item and a bracketed list after it are told apart. -/
theorem eq_of_headed_list_eq {f g : ι}
    (hn : ∀ item tail tail', (text item).toList ++ tail ≠ ']' :: tail')
    (h : ∀ x ∈ f :: xs, ∀ y ∈ g :: ys, ToldApart text x y)
    (he : (text f).toList ++ ", [".toList ++ ((commaList (xs.map text)).toList ++ ']' :: rest) =
      (text g).toList ++ ", [".toList ++ ((commaList (ys.map text)).toList ++ ']' :: rest')) :
    f = g ∧ xs = ys ∧ rest = rest' := by
  rw [List.append_assoc, List.append_assoc] at he
  obtain ⟨rfl, hlist⟩ := h f List.mem_cons_self g List.mem_cons_self he
  obtain ⟨rfl, hrest⟩ := eq_of_commaList_eq hn
    (fun a ha b hb => h a (.tail _ ha) b (.tail _ hb)) (List.append_cancel_left hlist)
  exact ⟨rfl, rfl, hrest⟩

/-! ## Layers that their debug texts tell apart -/

/-- The debug text of a layer with more text after it, piece by piece. -/
theorem toList_debug_append (layer : Layer String) (rest : List Char) :
    (debug layer).toList ++ rest =
      match layer with
      | .apply callee arguments =>
        "Apply(".toList ++
          (callee.toList ++ ", [".toList ++ ((commaList arguments).toList ++ ']' :: ')' :: rest))
      | .abstract parameters body =>
        "Abstract([".toList ++
          ((commaList parameters).toList ++ ']' :: (", ".toList ++ (body.toList ++ ')' :: rest)))
      | .assign name value =>
        "Assign(".toList ++ (name.toList ++ ',' :: ' ' :: (value.toList ++ ')' :: rest))
      | .var name => "Variable(".toList ++ (name.toList ++ ')' :: rest)
      | .literal value => "Literal(".toList ++ (value.toList ++ ')' :: rest)
      | .group label members =>
        "Group(".toList ++
          (label.toList ++ ", [".toList ++ ((commaList members).toList ++ ']' :: ')' :: rest)) := by
  cases layer <;> simp [debug]

/-- A debug text is not taken for a closing bracket. -/
theorem toList_debug_append_ne (layer : Layer String) (rest rest' : List Char) :
    (debug layer).toList ++ rest ≠ ']' :: rest' := by
  cases layer <;> simp [debug]

/-- Two layers are told apart by their debug texts when their payloads are told apart by theirs. The
variants are told apart by their keywords. -/
theorem eq_of_debug_map_eq {left right : Layer ι} (hl : left.isReadable = true)
    (hr : right.isReadable = true)
    (hn : ∀ item tail tail', (text item).toList ++ tail ≠ ']' :: tail')
    (h : ∀ x ∈ left.payloads, ∀ y ∈ right.payloads, ToldApart text x y)
    (he : (debug (left.map text)).toList ++ rest = (debug (right.map text)).toList ++ rest') :
    left = right ∧ rest = rest' := by
  rw [toList_debug_append, toList_debug_append] at he
  cases left with
  | apply f xs =>
    cases right with
    | apply g ys =>
      obtain ⟨rfl, rfl, hrest⟩ := eq_of_headed_list_eq hn h (List.append_cancel_left he)
      exact ⟨rfl, List.tail_eq_of_cons_eq hrest⟩
    | _ => simp [Layer.map] at he
  | abstract xs f =>
    cases right with
    | abstract ys g =>
      obtain ⟨rfl, hbody⟩ := eq_of_commaList_eq hn
        (fun a ha b hb => h a (List.mem_append_left _ ha) b (List.mem_append_left _ hb))
        (List.append_cancel_left he)
      obtain ⟨rfl, hrest⟩ :=
        h f List.mem_concat_self g List.mem_concat_self (List.append_cancel_left hbody)
      exact ⟨rfl, List.tail_eq_of_cons_eq hrest⟩
    | _ => simp [Layer.map] at he
  | assign name f =>
    cases right with
    | assign name' g =>
      obtain ⟨rfl, hvalue⟩ := eq_of_append_mark_eq hl hr (List.append_cancel_left he)
      obtain ⟨rfl, hrest⟩ :=
        h f List.mem_cons_self g List.mem_cons_self (List.tail_eq_of_cons_eq hvalue)
      exact ⟨rfl, List.tail_eq_of_cons_eq hrest⟩
    | _ => simp [Layer.map] at he
  | var name =>
    cases right with
    | var name' =>
      obtain ⟨rfl, hrest⟩ := eq_of_append_mark_eq hl hr (List.append_cancel_left he)
      exact ⟨rfl, hrest⟩
    | _ => simp [Layer.map] at he
  | literal value =>
    cases right with
    | literal value' =>
      obtain ⟨rfl, hrest⟩ := eq_of_append_mark_eq hl hr (List.append_cancel_left he)
      exact ⟨rfl, hrest⟩
    | _ => simp [Layer.map] at he
  | group f xs =>
    cases right with
    | group g ys =>
      obtain ⟨rfl, rfl, hrest⟩ := eq_of_headed_list_eq hn h (List.append_cancel_left he)
      exact ⟨rfl, List.tail_eq_of_cons_eq hrest⟩
    | _ => simp [Layer.map] at he

end Algebra

end Items

/-! ## Trees that their debug texts tell apart -/

/-- The debug texts of readable trees tell them apart, whatever follows. -/
theorem Tree.toldApart_debug {a b : Tree} (ha : a.isReadable = true) (hb : b.isReadable = true) :
    ToldApart (fold Algebra.debug) a b := by
  induction a using Tree.induction generalizing b with
  | node layer ih =>
    obtain ⟨other⟩ := b
    obtain ⟨hl, hchildren⟩ := isReadable_node_iff.1 ha
    obtain ⟨ho, hothers⟩ := isReadable_node_iff.1 hb
    intro rest rest' he
    rw [fold_node, fold_node] at he
    have hn (tree : Tree) (tail tail' : List Char) :
        (tree.fold Algebra.debug).toList ++ tail ≠ ']' :: tail' := by
      obtain ⟨layer⟩ := tree
      rw [fold_node]
      exact Algebra.toList_debug_append_ne _ _ _
    obtain ⟨rfl, hrest⟩ := Algebra.eq_of_debug_map_eq hl ho hn
      (fun x hx y hy => ih x hx (hchildren x hx) (hothers y hy)) he
    exact ⟨rfl, hrest⟩

/-- Readable trees with the same debug text are the same. -/
theorem Tree.fold_debug_inj {a b : Tree} (ha : a.isReadable = true) (hb : b.isReadable = true) :
    a.fold Algebra.debug = b.fold Algebra.debug ↔ a = b := by
  constructor
  · intro he
    exact (toldApart_debug ha hb (congrArg (String.toList · ++ []) he)).1
  · rintro rfl
    rfl

variable {ε σ ν : Type} {τ : Type u} [BEq ν] [LawfulBEq ν] [Hashable ν] {forest : Forest ε σ ν}
  {view : τ → Layer τ}

/-- Nodes that stand for finite trees within the bound, with no closing mark in their strings, have
debug texts, and these are the same exactly when the trees are. -/
theorem Forest.debug_uniquely_readable (meaning : forest.Interpretation view) (settings : Settings)
    {s t : σ} {x y : ν} {left right : τ} (hx : meaning.stands s x left)
    (hy : meaning.stands t y right) {a b : Tree} (ha : Unfolds view left a)
    (hb : Unfolds view right b) (hha : a.height ≤ settings.maxDepth)
    (hhb : b.height ≤ settings.maxDepth) (hra : a.isReadable = true) (hrb : b.isReadable = true) :
    ∃ text text', (∃ s', forest.fold settings (.ofPure Algebra.debug) x s = .ok text s') ∧
      (∃ t', forest.fold settings (.ofPure Algebra.debug) y t = .ok text' t') ∧
      (text = text' ↔ a = b) ∧ (a = b ↔ Agree view left right) := by
  have hl := (Fold.fold_eq_ok_iff meaning settings Algebra.debug hx _).2 ⟨a, ⟨ha, hha⟩, rfl⟩
  have hr := (Fold.fold_eq_ok_iff meaning settings Algebra.debug hy _).2 ⟨b, ⟨hb, hhb⟩, rfl⟩
  refine ⟨_, _, hl, hr, Tree.fold_debug_inj hra hrb, fun he => ?_, fun he => ?_⟩
  · subst he
    exact agree_of_unfolds ha hb
  · exact (ha.of_agree he).unique hb

/-- Two applications of a name that looks like the beginning of a debug text, to a literal without
characters and to an assigned bracket, in one order and in the other. -/
def lookalikes : Fin 5 → Layer (Fin 5)
  | 0 => .apply 2 [3, 4]
  | 1 => .apply 2 [4, 3]
  | 2 => .var "Apply(Variable(f, ["
  | 3 => .literal ""
  | 4 => .assign "a) = [" 3

/-- The two applications have debug texts, and these differ. -/
theorem Forest.debug_lookalikes :
    let forest : Forest Empty Unit (Fin 5) :=
      ⟨fun node state => .ok (lookalikes node) state, fun _ state => state⟩
    ∃ text text', (∃ after, forest.fold { maxDepth := 3 } (.ofPure Algebra.debug) 0 () =
        .ok text after) ∧
      (∃ after, forest.fold { maxDepth := 3 } (.ofPure Algebra.debug) 1 () = .ok text' after) ∧
      text ≠ text' := by
  intro forest
  have hshows : forest.Shows lookalikes := fun _ _ => rfl
  let meaning : forest.Interpretation lookalikes := hshows.interpretation
  have hx : meaning.stands () 0 0 := rfl
  have hy : meaning.stands () 1 1 := rfl
  have hname : Unfolds lookalikes 2 (.node (.var "Apply(Variable(f, [")) :=
    unfolds_node_iff.2 (.var _)
  have hliteral : Unfolds lookalikes 3 (.node (.literal "")) := unfolds_node_iff.2 (.literal _)
  have hassign : Unfolds lookalikes 4 (.node (.assign "a) = [" (.node (.literal "")))) :=
    unfolds_node_iff.2 (.assign _ hliteral)
  have hfirst := unfolds_node_iff.2
    (show Layer.Rel (Unfolds lookalikes) (lookalikes 0) _ from
      .apply hname (.cons hliteral (.cons hassign .nil)))
  have hsecond := unfolds_node_iff.2
    (show Layer.Rel (Unfolds lookalikes) (lookalikes 1) _ from
      .apply hname (.cons hassign (.cons hliteral .nil)))
  obtain ⟨text, text', hl, hr, he, -⟩ := Forest.debug_uniquely_readable meaning { maxDepth := 3 }
    hx hy hfirst hsecond (by decide) (by decide) (by decide) (by decide)
  refine ⟨text, text', hl, hr, fun h => ?_⟩
  have htrees := he.1 h
  simp at htrees

end LayeredTree
