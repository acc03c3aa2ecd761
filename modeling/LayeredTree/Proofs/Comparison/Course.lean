import LayeredTree.Proofs.Comparison.Refinement
import LayeredTree.Proofs.Placement
import Mathlib.Data.List.Lex

/-!
# The course of a comparison

The course of a comparison is the list of the pairs that it looks at. It goes on after a pair only
when both nodes have revealed their layers and these have one shape; a pair whose layers differ, or
that cannot be opened, is the last one. The pairs stand in pre-order, which is the lexicographic
order of their positions, so nothing is asked that comes after the first difference. The loop on
pending pairs takes the same course as the recursion on the depth.
-/

namespace LayeredTree

variable {ε σ α β ν : Type}

/-- The result of a computation, with the events that have led to its state. -/
def Observed.along (events : List (Event ν α)) :
    EStateM.Result ε σ β → EStateM.Result ε (Observed σ ν α) β
  | .ok value state => .ok value ⟨state, events⟩
  | .error cause state => .error cause ⟨state, events⟩

namespace Comparison

section Lockstep

variable [BEq ν] (forest : Forest ε σ ν) (settings : Settings)

/-- Compare two nodes at a depth. -/
def lockstep (depth : Nat) (left right : ν) : Walk ε σ Bool :=
  if left == right then return true
  else if settings.maxDepth < depth then
    forest.stop (.comparisonLimitReached settings.maxDepth) (.tooDeep settings.maxDepth)
  else do
    let leftLayer ← forest.reveal left
    let rightLayer ← forest.reveal right
    if leftLayer.sameShape rightLayer then
      (leftLayer.payloads.zip rightLayer.payloads).allM fun (l, r) => lockstep (depth + 1) l r
    else return false
termination_by settings.maxDepth + 1 - depth

/-- Counting depths up to the limit is counting levels down from it. -/
theorem lockstep_eq_descend (levels : Nat) {depth : Nat}
    (hd : depth + levels = settings.maxDepth + 1) (left right : ν) :
    lockstep forest settings depth left right = descend forest settings levels left right := by
  induction levels generalizing depth left right with
  | zero => rw [lockstep, descend, if_pos (show settings.maxDepth < depth by omega)]
  | succ levels ih =>
    rw [lockstep, descend, if_neg (show ¬settings.maxDepth < depth by omega)]
    simp only [ih (show depth + 1 + levels = settings.maxDepth + 1 by omega)]

/-- The loop on pending pairs is the comparison by recursion on the depth. -/
theorem equal_eq_lockstep (left right : ν) :
    forest.equal settings left right = lockstep forest settings 1 left right := by
  rw [equal_eq_descend, lockstep_eq_descend forest settings settings.maxDepth (Nat.add_comm 1 _)]

end Lockstep

/-! ## Courses -/

/-- The questions to the two nodes of a pair, the left one first. -/
def questions (pair : Placed (ν × ν)) : List (Event (Placed ν) α) :=
  [.asked ⟨pair.node.1, pair.position⟩, .asked ⟨pair.node.2, pair.position⟩]

/-- A pair that a comparison has to open: its nodes are not identical, and it is within the
limit. -/
structure Due [BEq ν] (settings : Settings) (pair : Placed (ν × ν)) : Prop where
  /-- The nodes are not identical. -/
  distinct : (pair.node.1 == pair.node.2) = false
  /-- The pair is within the limit. -/
  within : pair.depth ≤ settings.maxDepth

/-- A pair is opened: first the left node reveals its layer, then the right one. -/
inductive Opens (forest : Forest ε σ ν) (pair : Placed (ν × ν)) (before : σ) :
    Layer ν → Layer ν → σ → Prop
  | intro {left right : Layer ν} {between after : σ}
      (first : forest.produce pair.node.1 before = .ok left between)
      (second : forest.produce pair.node.2 between = .ok right after) :
      Opens forest pair before left right after

/-- The pairs that a comparison looks at, one after the other, with the events and the result that
this leads to. -/
inductive Course [BEq ν] (forest : Forest ε σ ν) (settings : Settings) :
    σ → List (Placed (ν × ν)) → List (Event (Placed ν) α) →
      EStateM.Result (Interruption ε) σ Bool → Prop
  /-- No pair is left, so all are equal. -/
  | equal (state : σ) : Course forest settings state [] [] (.ok true state)
  /-- A pair has layers of one shape, and the other pairs follow. -/
  | agree {pair : Placed (ν × ν)} {before between : σ} {left right : Layer ν}
      {pairs : List (Placed (ν × ν))} {events : List (Event (Placed ν) α)}
      {result : EStateM.Result (Interruption ε) σ Bool} (due : Due settings pair)
      (opens : Opens forest pair before left right between) (shapes : left.shape = right.shape)
      (rest : Course forest settings between pairs events result) :
      Course forest settings before (pair :: pairs) (questions pair ++ events) result
  /-- A pair has layers of different shapes, which is the answer. -/
  | differ {pair : Placed (ν × ν)} {before after : σ} {left right : Layer ν}
      (due : Due settings pair) (opens : Opens forest pair before left right after)
      (shapes : left.shape ≠ right.shape) :
      Course forest settings before [pair] (questions pair) (.ok false after)
  /-- The left node of a pair fails to reveal its layer, and nobody asks the right one. -/
  | leftFails {pair : Placed (ν × ν)} {before after : σ} {cause : ε} (due : Due settings pair)
      (fails : forest.produce pair.node.1 before = .error cause after) :
      Course forest settings before [pair] [.asked ⟨pair.node.1, pair.position⟩]
        (.error (.raised cause) after)
  /-- The right node of a pair fails to reveal its layer. -/
  | rightFails {pair : Placed (ν × ν)} {before between after : σ} {left : Layer ν} {cause : ε}
      (due : Due settings pair) (first : forest.produce pair.node.1 before = .ok left between)
      (fails : forest.produce pair.node.2 between = .error cause after) :
      Course forest settings before [pair] (questions pair) (.error (.raised cause) after)
  /-- A pair of different nodes lies below the limit, which is recorded. -/
  | tooDeep {pair : Placed (ν × ν)} (before : σ)
      (distinct : (pair.node.1 == pair.node.2) = false)
      (below : settings.maxDepth < pair.depth) :
      Course forest settings before [pair]
        [.recorded (.comparisonLimitReached settings.maxDepth)]
        (.error (.tooDeep settings.maxDepth)
          (forest.report (.comparisonLimitReached settings.maxDepth) before))

section Running

variable [BEq ν] {forest : Forest ε σ ν} {settings : Settings}

/-- After a course in which all pairs agree, another one may follow. -/
theorem Course.append {before between : σ} {front back : List (Placed (ν × ν))}
    {events events' : List (Event (Placed ν) α)} {result : EStateM.Result (Interruption ε) σ Bool}
    (h : Course forest settings before front events (.ok true between))
    (h' : Course forest settings between back events' result) :
    Course forest settings before (front ++ back) (events ++ events') result := by
  generalize hr : EStateM.Result.ok true between = first at h
  induction h with
  | equal state =>
    cases hr
    exact h'
  | agree due opens shapes _ ih =>
    rw [List.append_assoc]
    exact .agree due opens shapes (ih hr)
  | _ => cases hr

/-- A result on placed nodes comes from a course when it is the result without the places, and the
pairs are looked at in pre-order, all of them in certain positions. -/
def FromCourse (forest : Forest ε σ ν) (settings : Settings) (among : List Nat → Prop) (before : σ)
    (past : List (Event (Placed ν) α))
    (seen : EStateM.Result (Interruption ε) (Observed σ (Placed ν) α) Bool)
    (plain : EStateM.Result (Interruption ε) σ Bool) : Prop :=
  ∃ pairs events, seen = Observed.along (past ++ events) plain ∧
    Course forest settings before pairs events plain ∧
    pairs.Pairwise (fun a b => a.position < b.position) ∧ ∀ pair ∈ pairs, among pair.position

/-- A computation on placed nodes runs a course when its results always come from one. -/
def RunsCourse (forest : Forest ε σ ν) (settings : Settings) (among : List Nat → Prop)
    (seen : Walk ε (Observed σ (Placed ν) α) Bool) (plain : Walk ε σ Bool) : Prop :=
  ∀ before past, FromCourse forest settings among before past (seen ⟨before, past⟩) (plain before)

variable {among later : List Nat → Prop} {before : σ} {past : List (Event (Placed ν) α)}

/-- A course may consist of a single pair. -/
theorem FromCourse.single {pair : Placed (ν × ν)} {events : List (Event (Placed ν) α)}
    {result : EStateM.Result (Interruption ε) σ Bool}
    (h : Course forest settings before [pair] events result) (hp : among pair.position) :
    FromCourse forest settings among before past (Observed.along (past ++ events) result) result :=
  ⟨[pair], events, rfl, h, List.pairwise_singleton _ _, List.forall_mem_singleton.2 hp⟩

/-- The positions may be described by less. -/
theorem FromCourse.imp {seen : EStateM.Result (Interruption ε) (Observed σ (Placed ν) α) Bool}
    {plain : EStateM.Result (Interruption ε) σ Bool}
    (h : FromCourse forest settings among before past seen plain)
    (hp : ∀ position, among position → later position) :
    FromCourse forest settings later before past seen plain := by
  obtain ⟨pairs, events, hr, hc, ho, hm⟩ := h
  exact ⟨pairs, events, hr, hc, ho, fun pair h => hp _ (hm pair h)⟩

variable {seen seen' : Walk ε (Observed σ (Placed ν) α) Bool} {plain plain' : Walk ε σ Bool}

theorem runsCourse_pure_true :
    RunsCourse forest settings among (return true : Walk ε (Observed σ (Placed ν) α) Bool)
      (return true) := by
  refine fun state past => ⟨[], [], ?_, .equal state, .nil, fun _ hm => absurd hm List.not_mem_nil⟩
  rw [List.append_nil]
  rfl

/-- A second computation, which looks at later positions, may follow where the first one found no
difference. -/
theorem RunsCourse.and (h : RunsCourse forest settings among seen plain)
    (h' : RunsCourse forest settings later seen' plain') (ho : ∀ a b, among a → later b → a < b) :
    RunsCourse forest settings (fun position => among position ∨ later position)
      (do if ← seen then seen' else return false)
      (do if ← plain then plain' else return false) := by
  intro state past
  have hfirst := h state past
  cases hs : plain state with
  | ok equal between =>
    rw [hs] at hfirst
    obtain ⟨pairs, events, hr, hc, hp, hm⟩ := hfirst
    rw [Walk.bind_of_ok hr, Walk.bind_of_ok hs]
    cases equal with
    | true =>
      obtain ⟨pairs', events', hr', hc', hp', hm'⟩ := h' between (past ++ events)
      refine ⟨pairs ++ pairs', events ++ events', ?_, hc.append hc', ?_, ?_⟩
      · rw [if_pos rfl, if_pos rfl, hr', List.append_assoc]
      · exact List.pairwise_append.2 ⟨hp, hp', fun a ha b hb => ho _ _ (hm a ha) (hm' b hb)⟩
      · intro pair hpair
        exact (List.mem_append.1 hpair).imp (hm pair) (hm' pair)
    | false => exact ⟨pairs, events, rfl, hc, hp, fun pair hpair => .inl (hm pair hpair)⟩
  | error reason between =>
    rw [hs] at hfirst
    obtain ⟨pairs, events, hr, hc, hp, hm⟩ := hfirst
    rw [Walk.bind_of_error hr, Walk.bind_of_error hs]
    exact ⟨pairs, events, rfl, hc, hp, fun pair hpair => .inl (hm pair hpair)⟩

/-- A position comes before those below it. -/
theorem lt_of_below {position other : List Nat} {index : Nat}
    (h : position ++ [index] <+: other) : position < other := by
  obtain ⟨tail, rfl⟩ := h
  have hl : position ++ [] < position ++ index :: tail :=
    List.append_left_lt (List.nil_lt_cons index tail)
  rwa [List.append_nil, List.append_cons] at hl

/-- Positions below an earlier child come before those below a later one. -/
theorem lt_of_branch {position a b : List Nat} {i j : Nat} (h : i < j)
    (ha : position ++ [i] <+: a) (hb : position ++ [j] <+: b) : a < b := by
  obtain ⟨s, rfl⟩ := ha
  obtain ⟨t, rfl⟩ := hb
  rw [List.append_assoc, List.append_assoc]
  exact List.append_left_lt (List.Lex.rel h)

/-- The tests of pairs of children, numbered from some index on, run a course when each of them
does. -/
theorem runsCourse_allM (position : List Nat)
    {test : Placed ν → Placed ν → Walk ε (Observed σ (Placed ν) α) Bool}
    {plain : ν → ν → Walk ε σ Bool}
    (h : ∀ index a b, RunsCourse forest settings (position ++ [index] <+: ·)
      (test ⟨a, position ++ [index]⟩ ⟨b, position ++ [index]⟩) (plain a b))
    (start : Nat) (lefts rights : List ν) :
    RunsCourse forest settings (fun other => ∃ index ≥ start, position ++ [index] <+: other)
      (((Placed.below position start lefts).zip (Placed.below position start rights)).allM
        fun (l, r) => test l r)
      ((lefts.zip rights).allM fun (l, r) => plain l r) := by
  induction lefts generalizing start rights with
  | nil => exact runsCourse_pure_true
  | cons left lefts ih =>
    cases rights with
    | nil => exact runsCourse_pure_true
    | cons right rights =>
      rw [Placed.below_cons, Placed.below_cons, List.zip_cons_cons, List.zip_cons_cons,
        List.allM_cons, List.allM_cons]
      intro state past
      refine ((h start left right).and (ih (start + 1) rights) ?_ state past).imp ?_
      · rintro a b ha ⟨index, hi, hb⟩
        exact lt_of_branch (Nat.lt_of_succ_le hi) ha hb
      · rintro other (hs | ⟨index, hi, hb⟩)
        · exact ⟨start, Nat.le_refl start, hs⟩
        · exact ⟨index, Nat.le_of_succ_le hi, hb⟩

/-- An opened pair of one shape is followed by the course of its children. -/
theorem RunsCourse.fromCourse_of_agree {pair : Placed (ν × ν)} {left right : Layer ν} {between : σ}
    (due : Due settings pair) (opens : Opens forest pair before left right between)
    (shapes : left.shape = right.shape)
    (h : RunsCourse forest settings (fun other => ∃ index ≥ 0, pair.position ++ [index] <+: other)
      seen plain) :
    FromCourse forest settings (pair.position <+: ·) before past
      (seen ⟨between, past ++ questions pair⟩) (plain between) := by
  obtain ⟨pairs, events, hr, hc, ho, hm⟩ := h between (past ++ questions pair)
  refine ⟨pair :: pairs, questions pair ++ events, ?_, .agree due opens shapes hc,
    List.pairwise_cons.2 ⟨fun other hother => ?_, ho⟩,
    List.forall_mem_cons.2 ⟨List.prefix_rfl, fun other hother => ?_⟩⟩
  · rw [hr, List.append_assoc]
  · obtain ⟨index, -, hp⟩ := hm other hother
    exact lt_of_below hp
  · obtain ⟨index, -, hp⟩ := hm other hother
    exact (List.prefix_append _ _).trans hp

/-- The comparison of two nodes in one place runs a course at that place and below it. -/
theorem runsCourse_descend (levels : Nat) (position : List Nat)
    (hd : position.length + levels = settings.maxDepth) (left right : ν) :
    RunsCourse (α := α) forest settings (position <+: ·)
      (descend forest.placed.observed settings levels ⟨left, position⟩ ⟨right, position⟩)
      (descend forest settings levels left right) := by
  induction levels generalizing position left right with
  | zero =>
    rw [descend, descend, Placed.beq_eq]
    split
    · exact runsCourse_pure_true
    next hi =>
    intro state past
    let pair : Placed (ν × ν) := ⟨(left, right), position⟩
    have hdeep : settings.maxDepth < pair.depth := Nat.lt_succ_of_le hd.ge
    exact .single (.tooDeep state (Bool.eq_false_iff.2 hi) hdeep) List.prefix_rfl
  | succ levels ih =>
    rw [descend, descend, Placed.beq_eq]
    split
    · exact runsCourse_pure_true
    next hi =>
    intro state past
    let pair : Placed (ν × ν) := ⟨(left, right), position⟩
    have here : position <+: pair.position := List.prefix_rfl
    have hdue : Due settings pair :=
      ⟨Bool.eq_false_iff.2 hi, show position.length + 1 ≤ settings.maxDepth by omega⟩
    cases hl : forest.produce left state with
    | error cause after =>
      rw [Walk.bind_of_error (Forest.reveal_placed_of_error position past hl),
        Walk.bind_of_error (Forest.reveal_of_error hl)]
      exact .single (.leftFails hdue hl) here
    | ok layer between =>
    rw [Walk.bind_of_ok (Forest.reveal_placed_of_ok position past hl),
      Walk.bind_of_ok (Forest.reveal_of_ok hl)]
    have hq : past ++ [.asked ⟨left, position⟩] ++ [.asked ⟨right, position⟩] =
        past ++ questions pair := List.append_assoc ..
    cases hr : forest.produce right between with
    | error cause after =>
      rw [Walk.bind_of_error (Forest.reveal_placed_of_error position _ hr),
        Walk.bind_of_error (Forest.reveal_of_error hr), hq]
      exact .single (.rightFails hdue hl hr) here
    | ok other after =>
    rw [Walk.bind_of_ok (Forest.reveal_placed_of_ok position _ hr),
      Walk.bind_of_ok (Forest.reveal_of_ok hr), hq, Layer.sameShape_placed]
    split
    next hs =>
      rw [Layer.payloads_placed, Layer.payloads_placed]
      -- the children stand one level further down, so one level less is left for them
      have hd' (index : Nat) : (position ++ [index]).length + levels = settings.maxDepth := by
        rw [List.length_append, List.length_singleton]
        omega
      have hchildren := runsCourse_allM position (fun index => ih _ (hd' index)) 0 layer.payloads
        other.payloads
      exact hchildren.fromCourse_of_agree hdue ⟨hl, hr⟩ (Layer.sameShape_iff.1 hs)
    next hs =>
      exact .single (.differ hdue ⟨hl, hr⟩ fun he => hs (Layer.sameShape_iff.2 he)) here

end Running

end Comparison

/-- The loop on pairs is the comparison by recursion, event by event, and runs a course: pairs in
pre-order up to the first difference or failure, which settles the answer. -/
theorem Forest.equal_eq_lockstep_course [BEq ν] (forest : Forest ε σ ν) (settings : Settings)
    (left right : ν) :
    forest.equal settings left right = Comparison.lockstep forest settings 1 left right ∧
      (forest.observed (α := α)).equal settings left right =
        Comparison.lockstep forest.observed settings 1 left right ∧
      ∀ state, ∃ pairs events,
        forest.placed.observed.equal settings (.root left) (.root right) (.start state) =
          Observed.along (α := α) events (forest.equal settings left right state) ∧
        Comparison.Course forest settings state pairs events
          (forest.equal settings left right state) ∧
        pairs.Pairwise fun a b => a.position < b.position := by
  refine ⟨Comparison.equal_eq_lockstep forest settings left right,
    Comparison.equal_eq_lockstep forest.observed settings left right, fun state => ?_⟩
  rw [Comparison.equal_eq_descend, Comparison.equal_eq_descend]
  obtain ⟨pairs, events, hr, hc, ho, -⟩ := Comparison.runsCourse_descend settings.maxDepth []
    (Nat.zero_add _) left right state []
  exact ⟨pairs, events, hr, hc, ho⟩

end LayeredTree
