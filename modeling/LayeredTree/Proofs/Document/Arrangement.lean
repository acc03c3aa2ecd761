import LayeredTree.Proofs.Document.Rejection

/-!
# Which nodes a layout arranges

The stack of a layout shows where its loop is: every frame below the top waits for one child, behind
those that are laid out. What the loop arranges is therefore the node in that position, and the
blocks are those of its children. Where all of a document can be laid out, the loop arranges the
node in each position once, and no node before the nodes below it.
-/

namespace LayeredTree.Document

variable {ω : Type}

/-! ## Positions from the bottom up -/

mutual

/-- The positions in a document that stands in the base, each after those below it. -/
def postorder (base : List Nat) : Document ω → List (List Nat)
  | text _ => [base]
  | horizontal parts => postorderAll base 0 parts ++ [base]
  | vertical parts => postorderAll base 0 parts ++ [base]
  | join separator parts =>
    postorder (base ++ [0]) separator ++ postorderAll base 1 parts ++ [base]
  | wrap opening body closing =>
    postorder (base ++ [0]) opening ++ postorder (base ++ [1]) body ++
      postorder (base ++ [2]) closing ++ [base]
  | foreign _ => [base]

/-- The positions in documents that stand side by side below the base, from some place on. -/
def postorderAll (base : List Nat) : Nat → List (Document ω) → List (List Nat)
  | _, [] => []
  | start, doc :: docs => postorder (base ++ [start]) doc ++ postorderAll base (start + 1) docs

end

theorem postorder_of_children {doc : Document ω} {docs : List (Document ω)}
    (hc : doc.children = .ok docs) (base : List Nat) :
    postorder base doc = postorderAll base 0 docs ++ [base] := by
  cases doc <;> cases hc <;> simp [postorder, postorderAll]

theorem mem_postorderAll_iff {base position : List Nat} {start : Nat}
    {docs : List (Document ω)} :
    position ∈ postorderAll base start docs ↔
      ∃ (place : Nat) (child : Document ω), docs[place]? = some child ∧
        position ∈ postorder (base ++ [start + place]) child := by
  induction docs generalizing start with
  | nil => simp [postorderAll]
  | cons doc docs ih =>
    rw [postorderAll, List.mem_append, ih]
    constructor
    · rintro (h | ⟨place, child, hp, h⟩)
      · exact ⟨0, doc, rfl, h⟩
      · exact ⟨place + 1, child, hp, by rwa [Nat.add_comm place, ← Nat.add_assoc]⟩
    · rintro ⟨_ | place, child, hp, h⟩
      · obtain rfl := Option.some.inj hp
        exact .inl h
      · exact .inr ⟨place, child, hp, by rwa [Nat.add_assoc, Nat.add_comm 1]⟩

/-- The positions in a document are those in which it has a node. -/
theorem mem_postorder_iff {base position : List Nat} {doc : Document ω} :
    position ∈ postorder base doc ↔
      ∃ rest, position = base ++ rest ∧ (doc.subdocumentAt rest).isSome = true := by
  induction doc using induction generalizing base position with
  | node doc ih =>
    cases hc : doc.children with
    | error thing =>
      obtain rfl := children_eq_error_iff.1 hc
      rw [postorder, List.mem_singleton]
      constructor
      · rintro rfl
        exact ⟨[], (List.append_nil _).symm, rfl⟩
      · rintro ⟨_ | ⟨place, rest⟩, rfl, h⟩
        · exact List.append_nil _
        · cases h
    | ok docs =>
      rw [postorder_of_children hc, List.mem_append, List.mem_singleton, mem_postorderAll_iff]
      constructor
      · rintro (⟨place, child, hp, h⟩ | rfl)
        · obtain ⟨rest, rfl, hr⟩ := (ih docs hc child (List.mem_of_getElem? hp)).1 h
          obtain ⟨sub, hsub⟩ := Option.isSome_iff_exists.1 hr
          refine ⟨place :: rest, by simp, Option.isSome_iff_exists.2 ⟨sub, ?_⟩⟩
          exact subdocumentAt_cons_eq_some_iff.2 ⟨docs, child, hc, hp, hsub⟩
        · exact ⟨[], (List.append_nil _).symm, rfl⟩
      · rintro ⟨_ | ⟨place, rest⟩, rfl, h⟩
        · exact .inr (List.append_nil _)
        · obtain ⟨sub, hsub⟩ := Option.isSome_iff_exists.1 h
          obtain ⟨_, child, hd, hp, hsub⟩ := subdocumentAt_cons_eq_some_iff.1 hsub
          obtain rfl := Except.ok.inj (hc.symm.trans hd)
          refine .inl ⟨place, child, hp, (ih docs hc child (List.mem_of_getElem? hp)).2 ?_⟩
          exact ⟨rest, by simp, by rw [hsub]; rfl⟩

/-- No position comes twice, or before one below it. -/
theorem pairwise_postorder (base : List Nat) (doc : Document ω) :
    (postorder base doc).Pairwise fun earlier later => ¬earlier <+: later := by
  induction doc using induction generalizing base with
  | node doc ih =>
    cases hc : doc.children with
    | error thing =>
      obtain rfl := children_eq_error_iff.1 hc
      exact List.pairwise_singleton _ _
    | ok docs =>
      have hd : ∀ start, (postorderAll base start docs).Pairwise
          fun earlier later => ¬earlier <+: later := by
        replace ih := ih docs hc
        clear hc
        induction docs with
        | nil => exact fun _ => .nil
        | cons child docs ihs =>
          obtain ⟨hchild, hdocs⟩ := List.forall_mem_cons.1 ih
          intro start
          rw [postorderAll, List.pairwise_append]
          refine ⟨hchild _, ihs hdocs _, fun earlier he later hl hp => ?_⟩
          obtain ⟨rest, rfl, -⟩ := mem_postorder_iff.1 he
          obtain ⟨place, other, -, hl⟩ := mem_postorderAll_iff.1 hl
          obtain ⟨rest', rfl, -⟩ := mem_postorder_iff.1 hl
          rw [List.append_assoc, List.append_assoc, List.prefix_append_right_inj] at hp
          have := (List.cons_prefix_cons.1 hp).1
          omega
      rw [postorder_of_children hc, List.pairwise_append]
      refine ⟨hd 0, List.pairwise_singleton _ _, fun earlier he later hl hp => ?_⟩
      obtain rfl := List.mem_singleton.1 hl
      obtain ⟨place, child, -, he⟩ := mem_postorderAll_iff.1 he
      obtain ⟨rest, rfl, -⟩ := mem_postorder_iff.1 he
      have hl := hp.length_le
      simp only [List.length_append, List.length_singleton] at hl
      omega

/-! ## Arrangements -/

/-- A node that is arranged, with its position and the blocks that it is arranged from. -/
structure Arrangement (ω : Type) where
  /-- Where the node stands. -/
  position : List Nat
  /-- The node. -/
  node : Document ω
  /-- The blocks from which the node is arranged. -/
  blocks : List Block

/-- The node is no foreign thing, and the blocks are those of its children, in order. -/
def Arrangement.Correct (arrangement : Arrangement ω) : Prop :=
  ∃ docs, arrangement.node.children = .ok docs ∧ docs.mapM layOut = .ok arrangement.blocks

namespace Layout

/-- The position of the document on top of some frames: each of these waits for the child behind
those that are laid out. -/
def position : List (Frame ω) → List Nat
  | [] => []
  | parent :: below => position below ++ [parent.blocks.length]

/-- What a step arranges: the node on top, unless a child is still to lay out. -/
def arranged (top : Frame ω) (below : List (Frame ω)) : List (Arrangement ω) :=
  match top.pending with
  | [] => [⟨position below, top.node, top.blocks.reverse⟩]
  | _ :: _ => []

/-- What the loop arranges from a stack on, in order. -/
def arrangements (top : Frame ω) (below : List (Frame ω)) : List (Arrangement ω) :=
  match _h : step top below with
  | .ok (.running next rest) => arranged top below ++ arrangements next rest
  | _ => arranged top below
termination_by agenda top below
decreasing_by exact step_shrinks _h

/-! ### Steps -/

theorem enter_eq_ok_iff {doc : Document ω} {frame : Frame ω} :
    enter doc = .ok frame ↔ ∃ docs, doc.children = .ok docs ∧ frame = ⟨doc, docs, []⟩ := by
  constructor
  · intro h
    obtain ⟨docs, hc, h⟩ := exists_of_bind_eq_ok h
    exact ⟨docs, hc, (Except.ok.inj h).symm⟩
  · rintro ⟨docs, hc, rfl⟩
    rw [enter, hc]
    rfl

/-- A step goes down into the next child, or up with the block of a node. -/
theorem step_eq_running {top next : Frame ω} {below rest : List (Frame ω)}
    (h : step top below = .ok (.running next rest)) :
    (∃ child pending, top.pending = child :: pending ∧ enter child = .ok next ∧
        rest = { top with pending } :: below) ∨
      ∃ parent block, top.pending = [] ∧ below = parent :: rest ∧
        arrange top.node top.blocks.reverse = .ok block ∧
        next = { parent with blocks := block :: parent.blocks } := by
  cases hp : top.pending with
  | cons child pending =>
    simp only [step, hp] at h
    obtain ⟨frame, he, h⟩ := exists_of_bind_eq_ok h
    cases h
    exact .inl ⟨child, pending, rfl, he, rfl⟩
  | nil =>
    simp only [step, hp] at h
    obtain ⟨block, ha, h⟩ := exists_of_bind_eq_ok h
    cases below with
    | nil => cases h
    | cons parent below =>
      cases h
      exact .inr ⟨parent, block, rfl, rfl, ha, rfl⟩

/-- The loop finishes when it has arranged the root. -/
theorem step_eq_finished {top : Frame ω} {below : List (Frame ω)} {block : Block}
    (h : step top below = .ok (.finished block)) : top.pending = [] ∧ below = [] := by
  cases hp : top.pending with
  | cons child pending =>
    simp only [step, hp] at h
    obtain ⟨frame, -, h⟩ := exists_of_bind_eq_ok h
    cases h
  | nil =>
    simp only [step, hp] at h
    obtain ⟨block, -, h⟩ := exists_of_bind_eq_ok h
    cases below with
    | nil => exact ⟨rfl, rfl⟩
    | cons parent below => cases h

theorem arrangements_of_running {top next : Frame ω} {below rest : List (Frame ω)}
    (h : step top below = .ok (.running next rest)) :
    arrangements top below = arranged top below ++ arrangements next rest := by
  rw [arrangements]
  split
  next he =>
    rw [h] at he
    cases he
    rfl
  next hn => exact absurd h (hn next rest)

theorem arrangements_of_stop {top : Frame ω} {below : List (Frame ω)}
    (h : ∀ next rest, step top below ≠ .ok (.running next rest)) :
    arrangements top below = arranged top below := by
  rw [arrangements]
  split
  next next rest he => exact absurd he (h next rest)
  next => rfl

/-! ### What the stack knows -/

/-- Of the children of a frame's node, those in front of some others have been laid out. -/
def Frame.Holds (frame : Frame ω) (others : List (Document ω)) : Prop :=
  ∃ done, frame.node.children = .ok (done ++ others) ∧
    List.Forall₂ (fun child block => child.layOut = .ok block) done frame.blocks.reverse

/-- The frames lead from the root down to a document, for which the nearest of them waits. -/
def Awaits (root : Document ω) : List (Frame ω) → Document ω → Prop
  | [], doc => doc = root
  | parent :: below, doc => parent.Holds (doc :: parent.pending) ∧ Awaits root below parent.node

/-- A stack that comes up in the layout of a document. -/
structure Sound (root : Document ω) (top : Frame ω) (below : List (Frame ω)) : Prop where
  /-- The blocks on top are those of the children that are not pending. -/
  top_holds : top.Holds top.pending
  /-- The frames below wait for the node on top. -/
  awaits : Awaits root below top.node

/-- When no child is left, the blocks are those of all children. -/
theorem Frame.Holds.correct {frame : Frame ω} (h : frame.Holds []) (position : List Nat) :
    Arrangement.Correct ⟨position, frame.node, frame.blocks.reverse⟩ := by
  obtain ⟨done, hc, hd⟩ := h
  rw [List.append_nil] at hc
  exact ⟨done, hc, mapM_eq_ok_iff.2 hd⟩

/-- The document that the nearest frame waits for stands in the position of the stack. -/
theorem Awaits.subdocumentAt_position {root doc : Document ω} {below : List (Frame ω)}
    (h : Awaits root below doc) : root.subdocumentAt (position below) = some doc := by
  induction below generalizing doc with
  | nil => exact congrArg some (Eq.symm h)
  | cons parent below ih =>
    obtain ⟨⟨done, hc, hd⟩, hb⟩ := h
    have hl : parent.blocks.length = done.length := by rw [hd.length_eq, List.length_reverse]
    rw [position, subdocumentAt_append, ih hb, Option.bind_some, subdocumentAt_cons_eq_some_iff]
    exact ⟨_, doc, hc, by simp [hl], rfl⟩

theorem sound_enter {root : Document ω} {frame : Frame ω} (h : enter root = .ok frame) :
    Sound root frame [] := by
  obtain ⟨docs, hc, rfl⟩ := enter_eq_ok_iff.1 h
  exact ⟨⟨[], hc, .nil⟩, rfl⟩

/-- A step leads from a sound stack to a sound stack. -/
theorem Sound.step {root : Document ω} {top next : Frame ω} {below rest : List (Frame ω)}
    (hs : Sound root top below) (h : Layout.step top below = .ok (.running next rest)) :
    Sound root next rest := by
  obtain ⟨htop, hbelow⟩ := hs
  rcases step_eq_running h with ⟨child, pending, hp, he, rfl⟩ | ⟨parent, block, hp, rfl, ha, rfl⟩
  · obtain ⟨docs, hc, rfl⟩ := enter_eq_ok_iff.1 he
    rw [hp] at htop
    exact ⟨⟨[], hc, .nil⟩, htop, hbelow⟩
  · rw [hp] at htop
    obtain ⟨docs, hc, hb⟩ := htop.correct []
    have hl : top.node.layOut = .ok block := by
      rw [layOut_of_children hc, hb]
      exact ha
    obtain ⟨⟨done, hcp, hd⟩, hb⟩ := hbelow
    refine ⟨⟨done ++ [top.node], ?_, ?_⟩, hb⟩
    · rw [List.append_assoc]
      exact hcp
    · rw [List.reverse_cons]
      exact List.rel_append hd (.cons hl .nil)

/-- What a step arranges is the node in its position, from the blocks of the children. -/
theorem Sound.correct_of_mem_arranged {root : Document ω} {top : Frame ω}
    {below : List (Frame ω)} (hs : Sound root top below) :
    ∀ entry ∈ arranged top below,
      root.subdocumentAt entry.position = some entry.node ∧ entry.Correct := by
  intro entry hm
  unfold arranged at hm
  split at hm
  next hp =>
    obtain rfl := List.mem_singleton.1 hm
    exact ⟨hs.awaits.subdocumentAt_position, (hp ▸ hs.top_holds).correct _⟩
  next => cases hm

/-- What the loop arranges is the node in its position, from the blocks of the children. -/
theorem Sound.correct_of_mem {root : Document ω} {top : Frame ω} {below : List (Frame ω)}
    (hs : Sound root top below) :
    ∀ entry ∈ arrangements top below,
      root.subdocumentAt entry.position = some entry.node ∧ entry.Correct := by
  induction top, below using run.induct with
  | case1 top below next rest h ih =>
    rw [arrangements_of_running h]
    exact List.forall_mem_append.2 ⟨hs.correct_of_mem_arranged, ih (hs.step h)⟩
  | case2 top below block h =>
    rw [arrangements_of_stop (by simp [h])]
    exact hs.correct_of_mem_arranged
  | case3 top below thing h =>
    rw [arrangements_of_stop (by simp [h])]
    exact hs.correct_of_mem_arranged

/-! ### Progress -/

/-- The positions that are still to arrange once the document on top of some frames is laid out. -/
def owed : List (Frame ω) → List (List Nat)
  | [] => []
  | parent :: below =>
    postorderAll (position below) (parent.blocks.length + 1) parent.pending ++
      position below :: owed below

/-- A loop that finishes arranges what is left on the stack, from the bottom up. -/
theorem map_position_arrangements {top : Frame ω} {below : List (Frame ω)} {block : Block}
    (h : run top below = .ok block) :
    (arrangements top below).map Arrangement.position =
      postorderAll (position below) top.blocks.length top.pending ++
        position below :: owed below := by
  induction top, below using run.induct with
  | case1 top below next rest hs ih =>
    rw [run_eq_step_bind, hs] at h
    rw [arrangements_of_running hs, List.map_append, ih h]
    rcases step_eq_running hs with ⟨child, pending, hp, he, rfl⟩ | ⟨parent, block, hp, rfl, -, rfl⟩
    · obtain ⟨docs, hc, rfl⟩ := enter_eq_ok_iff.1 he
      simp [arranged, hp, postorderAll, postorder_of_children hc, position, owed]
    · simp [arranged, hp, postorderAll, position, owed]
  | case2 top below other hs =>
    obtain ⟨hp, rfl⟩ := step_eq_finished hs
    rw [arrangements_of_stop (by simp [hs])]
    simp [arranged, hp, postorderAll, position, owed]
  | case3 top below thing hs =>
    rw [run_eq_step_bind, hs] at h
    cases h

end Layout

/-- What the layout of a document arranges, in order. -/
def arrangements (doc : Document ω) : List (Arrangement ω) :=
  match Layout.enter doc with
  | .ok frame => Layout.arrangements frame []
  | .error _ => []

/-- The layout arranges the node in every position of a document, each of them once, and none
before a node below it. -/
structure ArrangedBottomUp (doc : Document ω) : Prop where
  /-- The positions are those of the nodes. -/
  mem_iff : ∀ position, position ∈ doc.arrangements.map Arrangement.position ↔
    ∃ node, doc.subdocumentAt position = some node
  /-- No position comes twice. -/
  nodup : (doc.arrangements.map Arrangement.position).Nodup
  /-- No position comes before one below it. -/
  upwards : (doc.arrangements.map Arrangement.position).Pairwise
    fun earlier later => ¬earlier <+: later

/-- Whatever is arranged, also before a layout fails, is the node in its position, from the blocks
of its children. -/
theorem correct_of_mem_arrangements {doc : Document ω} :
    ∀ entry ∈ doc.arrangements,
      doc.subdocumentAt entry.position = some entry.node ∧ entry.Correct := by
  unfold arrangements
  split
  next frame he => exact (Layout.sound_enter he).correct_of_mem
  next => exact nofun

theorem arrangedBottomUp_of_block {doc : Document ω} {block : Block}
    (h : doc.block = .ok block) : doc.ArrangedBottomUp := by
  obtain ⟨frame, he, hr⟩ := exists_of_bind_eq_ok h
  have hp : doc.arrangements.map Arrangement.position = postorder [] doc := by
    obtain ⟨docs, hc, rfl⟩ := Layout.enter_eq_ok_iff.1 he
    rw [arrangements, he, postorder_of_children hc]
    exact Layout.map_position_arrangements hr
  have hd := pairwise_postorder [] doc
  rw [← hp] at hd
  refine ⟨fun position => ?_, hd.imp ?_, hd⟩
  · rw [hp, mem_postorder_iff, ← Option.isSome_iff_exists]
    simp
  · rintro earlier _ h rfl
    exact h List.prefix_rfl

/-- Where the document of an outline cannot be laid out, the failure names the kind of the thing
that the layout reports. -/
theorem render_outline_eq_error_iff {outline : Outline Value} {made : Document Value}
    (hm : outline.make = .ok made) {kind : String} :
    outline.render = .error (.notADocument kind) ↔
      ∃ thing, made.render = .error thing ∧ thing.kindName = kind := by
  simp only [Outline.render, hm]
  cases hr : made.render with
  | ok content => simp [bind, Except.bind, pure, Except.pure, hr]
  | error thing => simp [bind, Except.bind, throw, throwThe, MonadExceptOf.throw, hr]

/-- The layout fails exactly with the first foreign thing in pre-order, whose kind it names; else it
arranges every node once, after the nodes below it and from the blocks of all its children. -/
theorem render_rejects_first_foreign (doc : Document ω) (outline : Outline Value) :
    (∀ thing, doc.render = .error thing ↔ ∃ position, doc.FirstForeign position thing) ∧
      ((∃ content, doc.render = .ok content) ↔
        ∀ position thing, doc.subdocumentAt position ≠ some (.foreign thing)) ∧
      ((∃ content, doc.render = .ok content) → doc.ArrangedBottomUp) ∧
      (∀ entry ∈ doc.arrangements, doc.subdocumentAt entry.position = some entry.node ∧
        (∀ thing, entry.node ≠ .foreign thing) ∧ entry.Correct) ∧
      ∀ made, outline.make = .ok made → ∀ kind,
        outline.render = .error (.notADocument kind) ↔
          ∃ position thing, made.FirstForeign position thing ∧ thing.kindName = kind := by
  refine ⟨fun thing => ?_, ?_, ?_, fun entry hm => ?_, fun made hm kind => ?_⟩
  · rw [render_eq_error_iff, layOut_eq_error_iff]
  · rw [exists_render_eq_ok_iff, exists_layOut_eq_ok_iff]
  · rintro ⟨content, h⟩
    obtain ⟨block, hb, -⟩ := exists_of_bind_eq_ok h
    exact arrangedBottomUp_of_block hb
  · obtain ⟨hp, docs, hc, hb⟩ := correct_of_mem_arrangements entry hm
    refine ⟨hp, fun thing he => ?_, docs, hc, hb⟩
    rw [he] at hc
    cases hc
  · rw [render_outline_eq_error_iff hm, exists_comm]
    simp only [render_eq_error_iff, layOut_eq_error_iff, exists_and_right]

end LayeredTree.Document
