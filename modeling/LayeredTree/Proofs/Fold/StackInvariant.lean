import LayeredTree.Proofs.Fold.Cycles

/-!
# The invariant of the fold loop

At the head of the loop the frames of the stack are the nodes on the path from the root to the node
in work. A frame accounts for every payload of its layer: those before the payload in work have been
folded, and the frame holds what each of them came to; those behind it are still pending. When a
frame collapses, what it comes to is what the visit of its node comes to, so the frame below
accounts for one payload more. Nothing is assumed of the forest or of the algebra.
-/

namespace LayeredTree.Fold

variable {ε σ α ν : Type}

/-- In declared order, the payloads of a frame's layer are as many as the frame has results, then
those in work, then the pending ones. -/
def Frame.Covers (frame : Frame ν α) (inWork : List ν) : Prop :=
  ∃ done, frame.layer.payloads = done ++ (inWork ++ frame.pending) ∧
    done.length = frame.results.length

/-- Results, payloads in work and pending children are as many as the payloads. -/
theorem Frame.Covers.length_eq {frame : Frame ν α} {inWork : List ν} (h : frame.Covers inWork) :
    frame.results.length + inWork.length + frame.pending.length = frame.layer.payloads.length := by
  obtain ⟨done, hl, hn⟩ := h
  rw [hl, ← hn, List.length_append, List.length_append, Nat.add_assoc]

/-- A payload in work is a payload. -/
theorem Frame.Covers.mem {frame : Frame ν α} {inWork : List ν} (h : frame.Covers inWork) {node : ν}
    (hm : node ∈ inWork) : node ∈ frame.layer.payloads := by
  obtain ⟨done, hl, -⟩ := h
  rw [hl, List.mem_append, List.mem_append]
  exact .inr (.inl hm)

variable [BEq ν]

section Accounts

variable (forest : Forest ε σ ν) (settings : Settings) (algebra : Algebra ε σ α)

/-- A frame, entered in one state, accounts for every payload of its layer in another: the results
are those of the payloads before `inWork`, and the pending children are the payloads behind. -/
def Frame.Accounts (path : List ν) (frame : Frame ν α) (inWork : List ν) (entered now : σ) : Prop :=
  ∃ done revealed, forest.reveal frame.node entered = .ok frame.layer revealed ∧
    frame.layer.payloads = done ++ (inWork ++ frame.pending) ∧
    done.mapM (visit forest settings algebra path) revealed = .ok frame.results.reverse now

/-- Each frame, the one on top first, accounts for its payloads, with the node of the frame above it
in work. Below the lowest frame there is only the root in work, in the state the fold began in. -/
inductive Descent (root : ν) (start : σ) : List (Frame ν α) → List ν → σ → Prop
  | nil : Descent root start [] [root] start
  | cons {frame : Frame ν α} {below : List (Frame ν α)} {inWork : List ν} {entered now : σ}
      (accounts : frame.Accounts forest settings algebra ((frame :: below).map Frame.node) inWork
        entered now)
      (rest : Descent root start below [frame.node] entered) :
      Descent root start (frame :: below) inWork now

end Accounts

variable {forest : Forest ε σ ν} {settings : Settings} {algebra : Algebra ε σ α}

namespace Frame.Accounts

variable {path : List ν} {frame : Frame ν α} {inWork : List ν} {entered now after : σ}

/-- A frame that has just been entered accounts for its payloads: all of them are pending. -/
theorem enter {child : ν} {layer : Layer ν}
    (hr : forest.reveal child entered = .ok layer now) :
    (Frame.enter child layer).Accounts forest settings algebra path [] entered now :=
  ⟨[], now, hr, rfl, rfl⟩

/-- The first pending child of a frame comes into work. -/
theorem advance {child : ν} {pending : List ν}
    (h : frame.Accounts forest settings algebra path [] entered now)
    (hp : frame.pending = child :: pending) :
    { frame with pending }.Accounts forest settings algebra path [child] entered now := by
  obtain ⟨done, revealed, hr, hl, hd⟩ := h
  exact ⟨done, revealed, hr, by rw [hl, hp]; rfl, hd⟩

/-- A frame that receives the result of the child in work accounts for one payload more. -/
theorem receive {child : ν} {value : α}
    (h : frame.Accounts forest settings algebra path [child] entered now)
    (hv : visit forest settings algebra path child now = .ok value after) :
    { frame with results := value :: frame.results }.Accounts forest settings algebra path []
      entered after := by
  obtain ⟨done, revealed, hr, hl, hd⟩ := h
  refine ⟨done ++ [child], revealed, hr, by rw [hl, List.append_assoc]; rfl, ?_⟩
  rw [List.mapM_append, Walk.bind_of_ok hd, List.mapM_cons, bind_assoc, Walk.bind_of_ok hv]
  simp only [List.mapM_nil, pure_bind, List.reverse_cons]
  rfl

/-- A frame that accounts for its payloads covers them. -/
theorem covers (h : frame.Accounts forest settings algebra path inWork entered now) :
    frame.Covers inWork := by
  obtain ⟨done, revealed, -, hl, hd⟩ := h
  exact ⟨done, hl, by rw [← Walk.length_eq_of_mapM_eq_ok hd, List.length_reverse]⟩

/-- A frame whose children are all folded has the result of every payload. -/
theorem mapM_payloads (h : frame.Accounts forest settings algebra path [] entered now)
    (hp : frame.pending = []) :
    ∃ revealed, forest.reveal frame.node entered = .ok frame.layer revealed ∧
      frame.layer.payloads.mapM (visit forest settings algebra path) revealed =
        .ok frame.results.reverse now := by
  obtain ⟨done, revealed, hr, hl, hd⟩ := h
  rw [hp, List.append_nil, List.append_nil] at hl
  exact ⟨revealed, hr, by rw [hl, hd]⟩

/-- What a frame collapses to is what the visit of its node comes to, in the state in which the
frame was entered, where the guards let the node pass. -/
theorem visit_eq_ok {value : α}
    (h : frame.Accounts forest settings algebra (frame.node :: path) [] entered now)
    (hp : frame.pending = [])
    (hc : (settings.detectCycles && path.contains frame.node) = false)
    (hd : path.length < settings.maxDepth) (hv : collapse algebra frame now = .ok value after) :
    visit forest settings algebra path frame.node entered = .ok value after := by
  obtain ⟨revealed, hr, hm⟩ := h.mapM_payloads hp
  rw [visit_of_length_lt forest settings algebra frame.node hd, if_neg (Bool.eq_false_iff.1 hc),
    Walk.bind_of_ok hr, Walk.bind_of_ok hm, ← collapse_eq_combine, hv]

end Frame.Accounts

/-- The frame on top accounts for its payloads since it was entered. -/
theorem Descent.exists_accounts {root : ν} {start now : σ} {frame : Frame ν α}
    {below : List (Frame ν α)} {inWork : List ν}
    (h : Descent forest settings algebra root start (frame :: below) inWork now) :
    ∃ entered, frame.Accounts forest settings algebra ((frame :: below).map Frame.node) inWork
      entered now := by
  obtain - | ⟨accounts, -⟩ := h
  exact ⟨_, accounts⟩

/-- The node of each frame lies between the results and the pending children of the frame below. -/
theorem Descent.isChain {root : ν} {start now : σ} {frames : List (Frame ν α)} {inWork : List ν}
    (h : Descent forest settings algebra root start frames inWork now) :
    frames.IsChain fun above frame => frame.Covers [above.node] := by
  induction h with
  | nil => exact .nil
  | cons accounts rest ih =>
    cases rest with
    | nil => exact .singleton _
    | cons accountsBelow _ => exact .cons_cons accountsBelow.covers ih

/-- The lowest frame is that of the root. -/
theorem Descent.node_getLast? {root : ν} {start now : σ} {frames : List (Frame ν α)}
    {inWork : List ν} (h : Descent forest settings algebra root start frames inWork now)
    (hn : frames ≠ []) : frames.getLast?.map Frame.node = some root := by
  induction h with
  | nil => exact absurd rfl hn
  | @cons frame below _ _ _ _ rest ih =>
    cases rest with
    | nil => rfl
    | cons _ _ => rw [List.getLast?_cons_cons, ih (List.cons_ne_nil _ _)]

variable [Hashable ν]

/-- The frames of a stack, the one on top first. -/
def Stack.frames (stack : Stack ν α) : List (Frame ν α) := stack.top :: stack.below

/-- The fold of a root that begins in one state comes to the head of its loop with a stack in
another state. -/
inductive Reaches (forest : Forest ε σ ν) (settings : Settings) (algebra : Algebra ε σ α) (root : ν)
    (start : σ) : Stack ν α → σ → Prop
  | enter {layer : Layer ν} {state : σ} (revealed : forest.reveal root start = .ok layer state) :
      Reaches forest settings algebra root start (.root settings root layer) state
  | step {stack next : Stack ν α} {before after : σ}
      (reached : Reaches forest settings algebra root start stack before)
      (taken : step forest settings algebra stack before = .ok (.running next) after) :
      Reaches forest settings algebra root start next after

namespace Reaches

variable {root : ν} {start state : σ} {stack : Stack ν α}

variable [LawfulBEq ν]

/-- Every stack that a fold comes to keeps the depth and the ancestors of its frames. -/
theorem faithful (h : Reaches forest settings algebra root start stack state) :
    stack.Faithful settings := by
  induction h with
  | enter revealed => exact Stack.faithful_root settings root _
  | step _ taken ih => exact ih.step taken

end Reaches

/-- Both guards would let the node on top of a faithful stack pass again, below the frames that it
is on top of. -/
theorem Stack.Faithful.passes_top [LawfulBEq ν] {stack : Stack ν α} (hf : stack.Faithful settings) :
    (settings.detectCycles && (stack.below.map Frame.node).contains stack.top.node) = false ∧
      (stack.below.map Frame.node).length < settings.maxDepth := by
  refine ⟨?_, Nat.lt_of_succ_le hf.depth_le⟩
  cases hdc : settings.detectCycles with
  | false => rfl
  | true =>
    have hn := (List.nodup_cons.1 (hf.nodup_path hdc)).1
    rw [Bool.true_and, Bool.eq_false_iff, ne_eq, List.contains_iff_mem]
    exact hn

/-- A step leads from frames that account for their payloads to frames that do. -/
theorem Descent.step [LawfulBEq ν] {root : ν} {start before after : σ} {stack next : Stack ν α}
    (h : Descent forest settings algebra root start stack.frames [] before)
    (hf : stack.Faithful settings)
    (hs : step forest settings algebra stack before = .ok (.running next) after) :
    Descent forest settings algebra root start next.frames [] after := by
  obtain - | ⟨accounts, rest⟩ := h
  rcases step_eq_running_iff.1 hs with
    ⟨child, pending, layer, hp, -, -, hr, rfl⟩ | ⟨parent, below, value, hp, hb, hv, rfl⟩
  · exact .cons (.enter hr) (.cons (accounts.advance hp) rest)
  -- the collapse ends the visit of the node on top, which the frame below waits for
  · obtain ⟨hc, hd⟩ := hf.passes_top
    have hvisit := accounts.visit_eq_ok hp hc hd hv
    rw [hb] at rest hvisit
    obtain - | ⟨accountsParent, restParent⟩ := rest
    exact .cons (accountsParent.receive hvisit) restParent

/-- Whatever stack a fold comes to, its frames account for their payloads. -/
theorem Reaches.descent [LawfulBEq ν] {root : ν} {start state : σ} {stack : Stack ν α}
    (h : Reaches forest settings algebra root start stack state) :
    Descent forest settings algebra root start stack.frames [] state := by
  induction h with
  | enter revealed => exact .cons (.enter revealed) .nil
  | step reached taken ih => exact ih.step reached.faithful taken

/-- What holds of the stack at the head of the loop of a fold, in the state that the fold has come
to. -/
structure Stack.Invariant (forest : Forest ε σ ν) (settings : Settings) (algebra : Algebra ε σ α)
    (root : ν) (start : σ) (stack : Stack ν α) (state : σ) : Prop where
  /-- The stack has a frame. -/
  frames_ne_nil : stack.frames ≠ []
  /-- The stack has no more frames than the bound allows. -/
  length_frames_le : stack.frames.length ≤ settings.maxDepth
  /-- The depth that the depth guard looks at is the number of frames. -/
  depth_eq : stack.depth = stack.frames.length
  /-- The lowest frame is that of the root. -/
  node_getLast? : stack.frames.getLast?.map Frame.node = some root
  /-- The node of each frame is a payload of the frame below. -/
  isChain_mem : stack.frames.IsChain fun above frame => above.node ∈ frame.layer.payloads
  /-- In every frame but the one on top, the node of the frame above is the one payload between the
  results and the pending children. -/
  isChain_covers : stack.frames.IsChain fun above frame => frame.Covers [above.node]
  /-- In the frame on top, nothing is between the results and the pending children. -/
  top_covers : stack.top.Covers []
  /-- In the frame on top, results and pending children are as many as the payloads. -/
  length_top : stack.top.results.length + stack.top.pending.length =
    stack.top.layer.payloads.length
  /-- Where cycles are detected, no node has two frames. -/
  nodup_nodes : settings.detectCycles = true → (stack.frames.map Frame.node).Nodup
  /-- Where cycles are detected, the ancestors are the nodes of the frames. -/
  mem_ancestors_iff : settings.detectCycles = true →
    ∀ node, node ∈ stack.ancestors ↔ node ∈ stack.frames.map Frame.node
  /-- In every frame, each result is the one of its own payload. -/
  descent : Descent forest settings algebra root start stack.frames [] state
  /-- When the frame on top collapses, the algebra is given its layer, with the result of each
  payload in the place of that payload, and no result is left over. -/
  collapse_eq : stack.top.pending = [] → ∃ entered revealed filled,
    forest.reveal stack.top.node entered = .ok stack.top.layer revealed ∧
      stack.top.layer.payloads.mapM (visit forest settings algebra stack.path) revealed =
        .ok filled.payloads state ∧
      filled.shape = stack.top.layer.shape ∧ filled.payloads = stack.top.results.reverse ∧
      collapse algebra stack.top = Forest.lift (algebra filled)

/-- Every stack at the loop head is the path to the node in work, within the bound and with all
payloads accounted for; a frame that collapses has the result of each payload in its place. -/
theorem Reaches.invariant [LawfulBEq ν] {root : ν} {start state : σ} {stack : Stack ν α}
    (h : Reaches forest settings algebra root start stack state) :
    stack.Invariant forest settings algebra root start state := by
  have hf := h.faithful
  have hd := h.descent
  have hlen : stack.path.length = stack.frames.length := List.length_map _
  have hchain := hd.isChain
  obtain ⟨entered, accounts⟩ := hd.exists_accounts
  have hcovers := accounts.covers
  refine
    { frames_ne_nil := List.cons_ne_nil _ _
      length_frames_le := hlen ▸ hf.depth_le
      depth_eq := hf.depth_eq.trans hlen
      node_getLast? := hd.node_getLast? (List.cons_ne_nil _ _)
      isChain_mem := hchain.imp fun above frame hc => hc.mem List.mem_cons_self
      isChain_covers := hchain
      top_covers := hcovers
      length_top := hcovers.length_eq
      nodup_nodes := hf.nodup_path
      mem_ancestors_iff := fun hdc node => ?_
      descent := hd
      collapse_eq := fun hp => ?_ }
  · rw [Std.HashSet.mem_iff_contains, hf.contains_ancestors hdc, List.contains_iff_mem]
    exact Iff.rfl
  · obtain ⟨revealed, hr, hm⟩ := accounts.mapM_payloads hp
    obtain ⟨filled, hfill⟩ := Layer.exists_refill_eq_some (Walk.length_eq_of_mapM_eq_ok hm)
    obtain ⟨hshape, hpayloads⟩ := Layer.refill_eq_some_iff.1 hfill
    refine ⟨entered, revealed, filled, hr, ?_, hshape, hpayloads, ?_⟩
    · rw [hpayloads]
      exact hm
    · rw [collapse_eq_combine, combine, hfill, Option.elim_some]

/-- The fold of a group comes into the leaf that the group holds twice, for the second time: the
label is folded, the leaf is the payload in work, and the other member is pending. -/
theorem Reaches.invariant_sharedAndLoop :
    let forest : Forest Empty (List Notice) (Fin 3) :=
      ⟨fun node state => .ok (sharedAndLoop node) state, fun notice notices => notices ++ [notice]⟩
    let settings : Settings := { maxDepth := 3 }
    let leaf : Frame (Fin 3) Nat := ⟨1, .var "x", [], []⟩
    let group : Frame (Fin 3) Nat := ⟨0, .group 1 [1, 2], [2], [1]⟩
    ∃ stack, stack.frames = [leaf, group] ∧
      Reaches forest settings (.ofPure Algebra.count) 0 [] stack [] ∧
      stack.Invariant forest settings (.ofPure Algebra.count) 0 [] [] := by
  intro forest settings leaf group
  have hroot : Reaches forest settings (.ofPure Algebra.count) 0 []
      (.root settings 0 (sharedAndLoop 0)) [] := .enter rfl
  have hlabel := hroot.step (step_eq_running_iff.2 (.inl ⟨1, [1, 2], sharedAndLoop 1, rfl,
    (hroot.faithful.guard_eq 1).trans rfl, by decide, rfl, rfl⟩))
  have hback := hlabel.step (step_eq_running_iff.2 (.inr ⟨_, [], 1, rfl, rfl, rfl, rfl⟩))
  have hmember := hback.step (step_eq_running_iff.2 (.inl ⟨1, [2], sharedAndLoop 1, rfl,
    (hback.faithful.guard_eq 1).trans rfl, by decide, rfl, rfl⟩))
  exact ⟨_, rfl, hmember, Reaches.invariant hmember⟩

end LayeredTree.Fold
