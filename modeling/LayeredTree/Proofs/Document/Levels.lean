import LayeredTree.Document.Builder
import LayeredTree.Proofs.Document.Gluing

/-!
# Levels of lines

A line stands on the level of the brackets that are open before it, and begins with four spaces for
each of them; where it begins by closing one, it stands a level further out. A block stands on its
own when its lines begin so and it closes every bracket that it opens. What is glued behind such a
block leaves the beginnings of its lines as they are, and its own lines go on as they did, so the
blocks stand on their own together. Indented once more, they fit between two brackets.
-/

namespace LayeredTree.Block

/-! ## Characters and lines of glued blocks -/

/-- The characters of a block, line after line. -/
def characters (block : Block) : List Char := block.flatMap String.toList

@[simp] theorem characters_nil : characters [] = [] := rfl

@[simp] theorem characters_cons (line : String) (block : Block) :
    characters (line :: block) = line.toList ++ characters block := List.flatMap_cons

@[simp] theorem characters_append (upper lower : Block) :
    characters (upper ++ lower) = characters upper ++ characters lower := List.flatMap_append

theorem characters_goOn (upper lower : Block) :
    (upper.goOn lower).characters = upper.characters ++ lower.characters := by
  rcases List.eq_nil_or_concat upper with rfl | ⟨front, last, rfl⟩
  · rw [nil_goOn, characters_nil, List.nil_append]
  cases lower with
  | nil => rw [goOn_nil, characters_nil, List.append_nil]
  | cons first rest => simp [concat_goOn_cons]

/-- Gluing moves no character. -/
theorem characters_glue (blocks : List Block) :
    (glue blocks).characters = blocks.flatMap characters := by
  have hc : (chain blocks).characters = blocks.flatMap characters := by
    induction blocks with
    | nil => rfl
    | cons block blocks ih => rw [chain_cons, characters_goOn, ih, List.flatMap_cons]
  rw [glue_eq_goOn_chain, characters_goOn, hc]
  rfl

/-- The number of line breaks in a block. -/
def breaks (block : Block) : Nat := block.length - 1

theorem length_goOn {upper : Block} (h : upper ≠ []) (lower : Block) :
    (upper.goOn lower).length = upper.length + lower.breaks := by
  cases lower with
  | nil => rfl
  | cons first rest =>
    have hl := List.length_pos_iff.2 h
    rw [goOn, List.length_append, List.length_dropLast, List.length_cons, breaks, List.length_cons]
    omega

/-- Gluing keeps all line breaks. -/
theorem length_glue (blocks : List Block) :
    (glue blocks).length = (blocks.map breaks).foldl (· + ·) 1 := by
  have hf (upper : Block) (h : upper ≠ []) :
      (blocks.foldl goOn upper).length = (blocks.map breaks).foldl (· + ·) upper.length := by
    induction blocks generalizing upper with
    | nil => rfl
    | cons block blocks ih =>
      rw [List.foldl_cons, ih _ (goOn_ne_nil h), List.map_cons, List.foldl_cons, length_goOn h]
  have hg : glue blocks = blocks.foldl goOn [""] := by
    rw [glue_eq_goOn_chain, ← chain_cons]
    rfl
  rw [hg, hf _ (List.cons_ne_nil _ _)]
  rfl

/-! ## Levels -/

/-- How many more brackets are opened than closed. -/
def balance (cs : List Char) : Int := cs.count '\x7b' - cs.count '\x7d'

@[simp] theorem balance_nil : balance [] = 0 := rfl

@[simp] theorem balance_append (front back : List Char) :
    balance (front ++ back) = balance front + balance back := by
  simp only [balance, List.count_append]
  omega

theorem balance_eq_zero {cs : List Char} (ho : '\x7b' ∉ cs) (hc : '\x7d' ∉ cs) :
    balance cs = 0 := by
  rw [balance, List.count_eq_zero_of_not_mem ho, List.count_eq_zero_of_not_mem hc]
  rfl

/-- The number of spaces that a line begins with. -/
def indentation (line : String) : Nat := (line.toList.takeWhile (· == ' ')).length

/-- Apart from spaces, a line begins with a closing bracket. -/
def closes (line : String) : Bool := line.toList.find? (· != ' ') == some '\x7d'

/-- Every line begins with exactly four spaces for each bracket that is open before it, one bracket
less where the line begins with a closing one. -/
def Indented (block : Block) : Prop :=
  ∀ (earlier : Block) (line : String) (later : Block), block = earlier ++ line :: later →
    (indentation line : Int) = 4 * (balance earlier.characters - if closes line then 1 else 0)

/-- A line begins as it must behind a number of open brackets: after its spaces comes another
character, which tells whether a bracket is closed first. -/
def BeginsAt (level : Int) (line : String) : Prop :=
  ∃ spaces c rest, line.toList = List.replicate spaces ' ' ++ c :: rest ∧ c ≠ ' ' ∧
    (spaces : Int) = 4 * (level - if c = '\x7d' then 1 else 0)

/-- What a line goes on with does not change how it begins. -/
theorem BeginsAt.append {level : Int} {line : String} (h : BeginsAt level line) (more : String) :
    BeginsAt level (line ++ more) := by
  obtain ⟨spaces, c, rest, hl, hc, hs⟩ := h
  refine ⟨spaces, c, rest ++ more.toList, ?_, hc, hs⟩
  rw [String.toList_append, hl, List.append_assoc, List.cons_append]

/-- Four more spaces are those of the next level. -/
theorem BeginsAt.indent {level : Int} {line : String} (h : BeginsAt level line) :
    BeginsAt (level + 1) ("    " ++ line) := by
  obtain ⟨spaces, c, rest, hl, hc, hs⟩ := h
  have hf : "    ".toList = List.replicate 4 ' ' := rfl
  refine ⟨4 + spaces, c, rest, ?_, hc, by omega⟩
  rw [String.toList_append, hl, hf, ← List.append_assoc, ← List.replicate_add]

theorem BeginsAt.indentation_eq {level : Int} {line : String} (h : BeginsAt level line) :
    (indentation line : Int) = 4 * (level - if closes line then 1 else 0) := by
  obtain ⟨spaces, c, rest, hl, hc, hs⟩ := h
  have hi : indentation line = spaces := by
    simp [indentation, hl, hc]
  have hf : closes line = (c == '\x7d') := by
    simp [closes, hl, hc]
  rw [hi, hf, hs]
  simp only [beq_iff_eq]

/-- All lines begin as they must, the first one behind a number of open brackets. -/
def BeginsFrom : Int → Block → Prop
  | _, [] => True
  | level, line :: lines => BeginsAt level line ∧ BeginsFrom (level + balance line.toList) lines

theorem beginsFrom_append_iff {level : Int} {upper lower : Block} :
    BeginsFrom level (upper ++ lower) ↔
      BeginsFrom level upper ∧ BeginsFrom (level + balance upper.characters) lower := by
  induction upper generalizing level with
  | nil => simp [BeginsFrom]
  | cons line upper ih =>
    rw [List.cons_append, BeginsFrom, BeginsFrom, ih, characters_cons, balance_append,
      Int.add_assoc, and_assoc]

theorem balance_indent (line : String) :
    balance ("    " ++ line).toList = balance line.toList := by
  have hs : balance "    ".toList = 0 := rfl
  rw [String.toList_append, balance_append, hs, Int.zero_add]

/-- Spaces in front of its lines open and close no bracket of a block. -/
theorem balance_indent_block (block : Block) :
    balance (characters (block.map ("    " ++ ·))) = balance block.characters := by
  induction block with
  | nil => rfl
  | cons line block ih =>
    rw [List.map_cons, characters_cons, balance_append, ih, balance_indent, characters_cons,
      balance_append]

/-- The block may be indented once more, behind one more bracket. -/
theorem BeginsFrom.indent {level : Int} {block : Block} (h : BeginsFrom level block) :
    BeginsFrom (level + 1) (block.map ("    " ++ ·)) := by
  induction block generalizing level with
  | nil => trivial
  | cons line block ih =>
    refine ⟨h.1.indent, ?_⟩
    rw [balance_indent, Int.add_right_comm]
    exact ih h.2

theorem BeginsFrom.indented {block : Block} (h : BeginsFrom 0 block) : block.Indented := by
  rintro earlier line later rfl
  obtain ⟨-, hl, -⟩ := beginsFrom_append_iff.1 h
  rw [Int.zero_add] at hl
  exact hl.indentation_eq

/-! ## Blocks that close what they open -/

/-- A block that stands on its own: it has a line, all its lines begin as they must, and it closes
every bracket that it opens. -/
structure Tidy (block : Block) : Prop where
  ne_nil : block ≠ []
  begins : BeginsFrom 0 block
  balanced : balance block.characters = 0

/-- A block that may go on behind one that stands on its own: its first line begins where the other
block ends. -/
structure Trails (block : Block) : Prop where
  begins : ∀ first rest, block = first :: rest → BeginsFrom (balance first.toList) rest
  balanced : balance block.characters = 0

theorem Tidy.trails {block : Block} (h : block.Tidy) : block.Trails := by
  refine ⟨?_, h.balanced⟩
  rintro first rest rfl
  have hr := h.begins.2
  rwa [Int.zero_add] at hr

/-- A single line may go on anywhere when it opens as many brackets as it closes. -/
theorem trails_singleton {line : String} (h : balance line.toList = 0) : Trails [line] where
  begins := by
    rintro first rest he
    obtain ⟨-, rfl⟩ := List.cons.inj he
    trivial
  balanced := by simpa using h

theorem Tidy.goOn {upper lower : Block} (hu : upper.Tidy) (hl : lower.Trails) :
    (upper.goOn lower).Tidy := by
  refine ⟨goOn_ne_nil hu.ne_nil, ?_, ?_⟩
  · rcases List.eq_nil_or_concat upper with rfl | ⟨front, last, rfl⟩
    · exact absurd rfl hu.ne_nil
    rw [List.concat_eq_append] at hu ⊢
    cases lower with
    | nil => exact hu.begins
    | cons first rest =>
      obtain ⟨hfront, hlast, -⟩ := beginsFrom_append_iff.1 hu.begins
      have hrest := hl.begins first rest rfl
      have hb := hu.balanced
      rw [concat_goOn_cons, beginsFrom_append_iff]
      refine ⟨hfront, hlast.append first, ?_⟩
      -- the upper block has closed its brackets, so the rest is as deep as behind `first` alone
      rw [characters_append, balance_append, characters_cons, characters_nil, List.append_nil] at hb
      rwa [String.toList_append, balance_append, Int.zero_add, ← Int.add_assoc, hb, Int.zero_add]
  · rw [characters_goOn, balance_append, hu.balanced, hl.balanced, Int.zero_add]

/-- Only the first of several glued blocks has to stand on its own. -/
theorem Tidy.glue {block : Block} {blocks : List Block} (h : block.Tidy)
    (ht : ∀ other ∈ blocks, other.Trails) : (glue (block :: blocks)).Tidy := by
  have hc : (chain (block :: blocks)).Tidy := by
    induction blocks generalizing block with
    | nil => rwa [chain_singleton]
    | cons next blocks ih =>
      obtain ⟨hn, hr⟩ := List.forall_mem_cons.1 ht
      have ha : chain (block :: next :: blocks) = chain (block.goOn next :: blocks) := by
        simp only [chain_cons, goOn_assoc]
      rw [ha]
      exact ih (h.goOn hn) hr
  rwa [glue_eq_chain hc.ne_nil]

/-- Members in brackets: each on lines of its own, indented, between the two brackets. -/
def bracketed (members : List Block) : Block :=
  "\x7b" :: (members.flatten.map ("    " ++ ·) ++ ["\x7d"])

theorem breaks_bracketed (members : List Block) :
    (bracketed members).breaks = members.flatten.length + 1 := by
  rw [breaks, bracketed, List.length_cons, List.length_append, List.length_map,
    List.length_singleton, Nat.add_sub_cancel]

/-- The brackets take the place of the empty lines around the indented members. -/
theorem glue_brackets (members : List Block) :
    glue [["\x7b"], Builder.indenting.vertical members, ["\x7d"]] = bracketed members := by
  let body := members.flatten.map ("    " ++ ·)
  have hclose : goOn ("" :: (body ++ [""])) ["\x7d"] = "" :: (body ++ ["\x7d"]) :=
    concat_goOn_cons ("" :: body) "" "\x7d" []
  have hopen : goOn ["\x7b"] ("" :: (body ++ ["\x7d"])) = bracketed members :=
    concat_goOn_cons [] "\x7b" "" (body ++ ["\x7d"])
  calc glue [["\x7b"], "" :: (body ++ [""]), ["\x7d"]]
    _ = goOn [""] (goOn ["\x7b"] (goOn ("" :: (body ++ [""])) ["\x7d"])) := by
        rw [glue_eq_goOn_chain, chain_cons, chain_cons, chain_singleton]
    _ = bracketed members := by
        rw [hclose, hopen]
        exact empty_line_goOn (List.cons_ne_nil _ _)

/-- Lines that stand on their own stand so below each other. -/
theorem beginsFrom_flatten {blocks : List Block} (h : ∀ block ∈ blocks, block.Tidy) :
    BeginsFrom 0 blocks.flatten ∧ balance (characters blocks.flatten) = 0 := by
  induction blocks with
  | nil => exact ⟨trivial, rfl⟩
  | cons block blocks ih =>
    obtain ⟨hb, hr⟩ := List.forall_mem_cons.1 h
    obtain ⟨hbegins, hbalanced⟩ := ih hr
    rw [List.flatten_cons, beginsFrom_append_iff, characters_append, balance_append, hb.balanced,
      hbalanced]
    exact ⟨⟨hb.begins, hbegins⟩, rfl⟩

/-- Indented members stand behind the opening bracket, and the closing one behind them. -/
theorem trails_bracketed {members : List Block} (h : ∀ member ∈ members, member.Tidy) :
    (bracketed members).Trails := by
  obtain ⟨hbegins, hbalanced⟩ := beginsFrom_flatten h
  have hbody := balance_indent_block members.flatten
  have hopen : balance "\x7b".toList = 1 := rfl
  have hclose : balance "\x7d".toList = -1 := rfl
  constructor
  · intro first rest he
    obtain ⟨rfl, rfl⟩ := List.cons.inj he
    have hc : BeginsAt 1 "\x7d" := ⟨0, '\x7d', [], rfl, by decide, rfl⟩
    rw [hopen, beginsFrom_append_iff, hbody, hbalanced]
    exact ⟨hbegins.indent, hc, trivial⟩
  · rw [bracketed, characters_cons, characters_append, balance_append, balance_append, hbody,
      hbalanced, characters_cons, characters_nil, List.append_nil, hopen, hclose]
    rfl

end LayeredTree.Block
