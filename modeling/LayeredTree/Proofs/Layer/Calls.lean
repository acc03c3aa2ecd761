import LayeredTree.Failure
import LayeredTree.Proofs.Layer.Equality
import LayeredTree.Proofs.Layer.Traversal

/-!
# The calls of a map

A map calls its transform once for each payload, in declared order, and ends at the first call that
fails. The failure is that of the call, but for one case: a sequence that the signal for the end of
items cuts short fails in another way. If no call fails, the answers stand in the places of the
payloads. A layer is its shape together with its payload list: both determine it, and every list of
the right length can take the place of the payloads.
-/

namespace LayeredTree

namespace Walk

variable {ε σ α β : Type}

/-- An action is called on the items of a list, one after the other, and every call has an answer.
Each call begins in the state that the call before it left behind. -/
inductive Answered (f : α → EStateM ε σ β) : List α → List β → σ → σ → Prop
  | nil (state : σ) : Answered f [] [] state state
  | cons {item : α} {answer : β} {items : List α} {answers : List β} {before between after : σ}
      (head : f item before = .ok answer between)
      (tail : Answered f items answers between after) :
      Answered f (item :: items) (answer :: answers) before after

variable {f : α → EStateM ε σ β} {items : List α} {before after : σ}

/-- A run over a list has answers when one call after the other has one. -/
theorem mapM_eq_ok_iff {answers : List β} :
    items.mapM f before = .ok answers after ↔ Answered f items answers before after := by
  induction items generalizing before answers with
  | nil =>
    constructor
    · intro h
      cases h
      exact .nil _
    · intro h
      cases h
      rfl
  | cons item items ih =>
    rw [List.mapM_cons]
    constructor
    · intro h
      obtain ⟨answer, between, ha, h⟩ := exists_of_bind_eq_ok h
      obtain ⟨rest, last, hr, h⟩ := exists_of_bind_eq_ok h
      cases h
      exact .cons ha (ih.1 hr)
    · rintro (_ | ⟨head, tail⟩)
      rw [bind_of_ok head, bind_of_ok (ih.2 tail)]
      rfl

/-- A run over a list fails when some call fails after all earlier ones have had an answer. -/
theorem mapM_eq_error_iff {cause : ε} :
    items.mapM f before = .error cause after ↔
      ∃ front item back answers between, items = front ++ item :: back ∧
        Answered f front answers before between ∧ f item between = .error cause after := by
  constructor
  · intro h
    induction items generalizing before with
    | nil => cases h
    | cons item items ih =>
      rw [List.mapM_cons] at h
      -- the first call fails, or a later one does in the state that the first one left behind
      rcases of_bind_eq_error h with h | ⟨answer, between, ha, h⟩
      · exact ⟨[], item, items, [], before, rfl, .nil before, h⟩
      rcases of_bind_eq_error h with h | ⟨rest, last, -, h⟩
      · obtain ⟨front, other, back, answers, later, rfl, hf, ho⟩ := ih h
        exact ⟨item :: front, other, back, answer :: answers, later, rfl, .cons ha hf, ho⟩
      · cases h
  · rintro ⟨front, item, back, answers, between, rfl, hf, hi⟩
    rw [List.mapM_append, bind_of_ok (mapM_eq_ok_iff.2 hf), List.mapM_cons, bind_assoc]
    exact bind_of_error hi

end Walk

namespace Layer

variable {ε σ α β δ : Type} {layer : Layer α}

section Calls

variable {f : α → EStateM ε σ β} {before after : σ}

/-- A traversal has an answer when every call has one, and the answers are its payloads. -/
theorem traverse_eq_ok_iff {filled : Layer β} :
    layer.traverse f before = .ok filled after ↔
      filled.shape = layer.shape ∧
        Walk.Answered f layer.payloads filled.payloads before after := by
  rw [layer.traverse_eq_mapM_bind f]
  constructor
  · intro h
    obtain ⟨answers, between, ha, h⟩ := Walk.exists_of_bind_eq_ok h
    obtain ⟨other, ho⟩ := exists_refill_eq_some (Walk.length_eq_of_mapM_eq_ok ha)
    rw [ho] at h
    cases h
    obtain ⟨hs, rfl⟩ := refill_eq_some_iff.1 ho
    exact ⟨hs, Walk.mapM_eq_ok_iff.1 ha⟩
  · rintro ⟨hs, ha⟩
    rw [Walk.bind_of_ok (Walk.mapM_eq_ok_iff.2 ha), refill_eq_some_iff.2 ⟨hs, rfl⟩]
    rfl

/-- A traversal fails when some call fails after all earlier ones have had an answer. -/
theorem traverse_eq_error_iff {cause : ε} :
    layer.traverse f before = .error cause after ↔
      ∃ front item back answers between, layer.payloads = front ++ item :: back ∧
        Walk.Answered f front answers before between ∧ f item between = .error cause after := by
  rw [layer.traverse_eq_mapM_bind f, ← Walk.mapM_eq_error_iff]
  constructor
  · intro h
    rcases Walk.of_bind_eq_error h with h | ⟨answers, between, ha, h⟩
    · exact h
    · obtain ⟨other, ho⟩ := exists_refill_eq_some (Walk.length_eq_of_mapM_eq_ok ha)
      rw [ho] at h
      cases h
  · exact Walk.bind_of_error

/-- A traversal whose calls only compute is a map. -/
theorem traverse_pure (layer : Layer α) (f : α → β) :
    layer.traverse (fun item => (pure (f item) : EStateM ε σ β)) = pure (layer.map f) := by
  cases layer <;> simp [traverse, map]

end Calls

/-! ## Calls in a sequence -/

/-- Each payload with a mark that tells whether it stands in a sequence. -/
def marked : Layer α → Layer (Bool × α)
  | apply callee arguments => apply (false, callee) (arguments.map (true, ·))
  | abstract parameters body => abstract (parameters.map (true, ·)) (false, body)
  | assign name value => assign name (false, value)
  | var name => var name
  | literal value => literal value
  | group label members => group (false, label) (members.map (true, ·))

/-- Without the marks, the layer is as it was. -/
theorem map_marked (layer : Layer α) : layer.marked.map Prod.snd = layer := by
  cases layer <;> simp [marked, map, Function.comp_def]

section Mapping

variable [EndSignal ε] {f : α → EStateM ε σ β} {before after : σ}

/-- The failure of a call as it comes out of a map. -/
def failureOf (sequential : Bool) (raised : ε) : ε :=
  if sequential then EndSignal.convert raised else raised

/-- Call a transform on a payload, in a sequence or by itself. -/
def call (f : α → EStateM ε σ β) : Bool × α → EStateM ε σ β
  | (true, item) => inSequence (f item)
  | (false, item) => f item

theorem inSequence_bind {γ : Type} (action : EStateM ε σ β) (next : β → EStateM ε σ γ) :
    inSequence (action >>= next) =
      inSequence action >>= fun answer => inSequence (next answer) := by
  funext state
  cases h : action state with
  | ok answer between =>
    have hi : inSequence action state = .ok answer between := by rw [inSequence, h]
    rw [Walk.bind_of_ok hi, inSequence, Walk.bind_of_ok h]
    rfl
  | error cause between =>
    have hi : inSequence action state = .error (EndSignal.convert cause) between := by
      rw [inSequence, h]
    rw [Walk.bind_of_error hi, inSequence, Walk.bind_of_error h]

/-- The calls of a sequence may be taken one by one. -/
theorem inSequence_mapM (f : α → EStateM ε σ β) (items : List α) :
    inSequence (items.mapM f) = items.mapM fun item => inSequence (f item) := by
  induction items with
  | nil => rfl
  | cons item items ih =>
    rw [List.mapM_cons, List.mapM_cons, inSequence_bind]
    refine bind_congr fun answer => ?_
    rw [inSequence_bind, ih]
    rfl

/-- A map is a traversal of the marked payloads. -/
theorem mapCalls_eq_traverse_marked (layer : Layer α) (f : α → EStateM ε σ β) :
    layer.mapCalls f = layer.marked.traverse (call f) := by
  cases layer <;> simp only [mapCalls, marked, traverse, inSequence_mapM, List.mapM_map] <;> rfl

/-- Where no call gives the signal, a map is a plain traversal. -/
theorem mapCalls_eq_traverse (layer : Layer α)
    (h : ∀ item state cause after, f item state = .error cause after →
      EndSignal.isSignal cause = false) :
    layer.mapCalls f = layer.traverse f := by
  have hf (item : α) : inSequence (f item) = f item := by
    funext state
    rw [inSequence]
    cases hi : f item state with
    | ok answer after => rfl
    | error cause after =>
      dsimp only
      rw [EndSignal.convert, h item state cause after hi, if_neg Bool.false_ne_true]
  cases layer <;> simp only [mapCalls, traverse, inSequence_mapM, hf]

theorem call_eq_ok_iff {place : Bool × α} {answer : β} :
    call f place before = .ok answer after ↔ f place.2 before = .ok answer after := by
  obtain ⟨sequential, item⟩ := place
  cases sequential with
  | false => rfl
  | true =>
    rw [call, inSequence]
    cases f item before <;> simp

theorem call_eq_error_iff {sequential : Bool} {item : α} {cause : ε} :
    call f (sequential, item) before = .error cause after ↔
      ∃ raised, f item before = .error raised after ∧ cause = failureOf sequential raised := by
  cases sequential with
  | false =>
    constructor
    · intro h
      exact ⟨cause, h, rfl⟩
    · rintro ⟨raised, h, rfl⟩
      exact h
  | true =>
    rw [call, inSequence]
    cases f item before with
    | ok answer between => simp
    | error raised between => simp [failureOf, eq_comm, and_comm]

/-- The calls have answers when the transform gives them. -/
theorem answered_call_iff {places : List (Bool × α)} {answers : List β} :
    Walk.Answered (call f) places answers before after ↔
      Walk.Answered f (places.map Prod.snd) answers before after := by
  induction places generalizing before answers with
  | nil => constructor <;> (rintro ⟨⟩; exact .nil _)
  | cons place places ih =>
    constructor
    · rintro (_ | ⟨head, tail⟩)
      exact .cons (call_eq_ok_iff.1 head) (ih.1 tail)
    · rintro (_ | ⟨head, tail⟩)
      exact .cons (call_eq_ok_iff.2 head) (ih.2 tail)

/-- A map has an answer when every call has one, and the answers are its payloads. -/
theorem mapCalls_eq_ok_iff {filled : Layer β} :
    layer.mapCalls f before = .ok filled after ↔
      filled.shape = layer.shape ∧
        Walk.Answered f layer.payloads filled.payloads before after := by
  have hs : layer.marked.shape = layer.shape := by rw [← shape_map Prod.snd, map_marked]
  have hp : layer.marked.payloads.map Prod.snd = layer.payloads := by
    rw [← payloads_map, map_marked]
  rw [mapCalls_eq_traverse_marked, traverse_eq_ok_iff, hs, answered_call_iff, hp]

/-- A map fails when some call fails after all earlier ones have had an answer. -/
theorem mapCalls_eq_error_iff {cause : ε} :
    layer.mapCalls f before = .error cause after ↔
      ∃ front sequential item back answers between raised,
        layer.marked.payloads = front ++ (sequential, item) :: back ∧
        Walk.Answered f (front.map Prod.snd) answers before between ∧
        f item between = .error raised after ∧ cause = failureOf sequential raised := by
  rw [mapCalls_eq_traverse_marked, traverse_eq_error_iff]
  constructor
  · rintro ⟨front, ⟨sequential, item⟩, back, answers, between, hp, ha, hc⟩
    obtain ⟨raised, hr, rfl⟩ := call_eq_error_iff.1 hc
    exact ⟨front, sequential, item, back, answers, between, raised, hp, answered_call_iff.1 ha, hr,
      rfl⟩
  · rintro ⟨front, sequential, item, back, answers, between, raised, hp, ha, hr, rfl⟩
    exact ⟨front, (sequential, item), back, answers, between, hp, answered_call_iff.2 ha,
      call_eq_error_iff.2 ⟨raised, hr, rfl⟩⟩

end Mapping

/-! ## Taking down and handing out -/

/-- Take down a payload behind those taken down before. -/
def takeDown (item : α) : EStateM ε (List α) Unit := modify (· ++ [item])

/-- Hand out the first one of the items that are left, or fail when there is none. -/
def handOut (cause : ε) : EStateM ε (List β) β
  | [] => .error cause []
  | item :: items => .ok item items

theorem answered_takeDown (items seen : List α) :
    Walk.Answered (takeDown : α → EStateM ε (List α) Unit) items (items.map fun _ => ()) seen
      (seen ++ items) := by
  induction items generalizing seen with
  | nil =>
    rw [List.append_nil]
    exact .nil seen
  | cons item items ih =>
    rw [List.append_cons]
    exact .cons rfl (ih (seen ++ [item]))

theorem answered_handOut (cause : ε) {payloads : List α} {items : List β}
    (h : items.length = payloads.length) :
    Walk.Answered (fun _ => handOut cause) payloads items items [] := by
  induction payloads generalizing items with
  | nil =>
    obtain rfl := List.length_eq_zero_iff.1 h
    exact .nil []
  | cons payload payloads ih =>
    obtain ⟨item, items, rfl⟩ := List.exists_cons_of_length_eq_add_one h
    exact .cons rfl (ih (Nat.succ.inj h))

/-- A map that takes down what it is given takes down the payload list. -/
theorem mapCalls_takeDown [EndSignal ε] (layer : Layer α) (seen : List α) :
    layer.mapCalls (takeDown : α → EStateM ε (List α) Unit) seen =
      .ok layer.shape (seen ++ layer.payloads) := by
  refine mapCalls_eq_ok_iff.2 ⟨shape_map _ layer, ?_⟩
  rw [shape, payloads_map]
  exact answered_takeDown layer.payloads seen

/-- A map that hands out items, one for each payload, refills the layer with them. -/
theorem mapCalls_handOut [EndSignal ε] (cause : ε) {items : List β} {filled : Layer β}
    (h : layer.refill items = some filled) :
    layer.mapCalls (fun _ => handOut cause) items = .ok filled [] := by
  obtain ⟨hs, rfl⟩ := refill_eq_some_iff.1 h
  exact mapCalls_eq_ok_iff.2 ⟨hs, answered_handOut cause (length_payloads_of_shape hs)⟩

/-! ## Shape and payload list -/

/-- Layers of one shape hold the same strings. -/
theorem strings_of_shape {left : Layer α} {right : Layer β} (h : left.shape = right.shape) :
    left.strings = right.strings := by
  rw [← strings_map (fun _ => ()) left, ← strings_map (fun _ => ()) right]
  exact congrArg strings h

/-- A layer is its shape together with its payload list, and a map calls a transform on the payloads
in order. What a call raises comes out as it is unless it is the signal, raised in a sequence. -/
theorem determined_by_shape_and_payloads [EndSignal ε] (layer : Layer α) :
    layer.marked.map Prod.snd = layer ∧
    (∀ (f : α → EStateM ε σ β) (before : σ),
      (∀ filled after, layer.mapCalls f before = .ok filled after ↔
        filled.shape = layer.shape ∧ filled.strings = layer.strings ∧
          Walk.Answered f layer.payloads filled.payloads before after) ∧
      ∀ cause after, layer.mapCalls f before = .error cause after ↔
        ∃ front sequential item back answers between raised,
          layer.marked.payloads = front ++ (sequential, item) :: back ∧
          Walk.Answered f (front.map Prod.snd) answers before between ∧
          f item between = .error raised after ∧ cause = failureOf sequential raised) ∧
    (∀ (f : α → β) (state : σ),
      layer.mapCalls (fun item => (pure (f item) : EStateM ε σ β)) state =
        .ok (layer.map f) state) ∧
    (∀ seen, layer.mapCalls (takeDown : α → EStateM ε (List α) Unit) seen =
      .ok layer.shape (seen ++ layer.payloads)) ∧
    (∀ other : Layer α,
      layer = other ↔ layer.sameShape other = true ∧ layer.payloads = other.payloads) ∧
    (∀ (ask : α → δ → EStateM ε σ Bool) (other : Layer δ) (before after : σ),
      layer.agreesBy ask other before = .ok true after ↔
        layer.sameShape other = true ∧
          agreeAllBy ask layer.payloads other.payloads before = .ok true after) ∧
    (∀ other : Layer δ, layer.sameShape other = true →
      layer.payloads.length = other.payloads.length) ∧
    ∀ (cause : ε) (items : List β), items.length = layer.payloads.length →
      ∃ filled, layer.mapCalls (fun _ => handOut cause) items = .ok filled [] ∧
        layer.refill items = some filled ∧ filled.shape = layer.shape ∧
        filled.payloads = items := by
  refine ⟨layer.map_marked, fun f before => ⟨fun filled after => ?_,
    fun cause after => mapCalls_eq_error_iff⟩, fun f state => ?_, mapCalls_takeDown layer,
    fun other => ?_, fun ask other before after => agreesBy_eq_true_iff,
    fun other h => length_payloads_of_shape (sameShape_iff.1 h), fun cause items h => ?_⟩
  · rw [mapCalls_eq_ok_iff]
    constructor
    · rintro ⟨hs, ha⟩
      exact ⟨hs, strings_of_shape hs, ha⟩
    · rintro ⟨hs, -, ha⟩
      exact ⟨hs, ha⟩
  · rw [mapCalls_eq_traverse layer nofun]
    exact congrFun (traverse_pure layer f) state
  · rw [sameShape_iff]
    exact eq_iff_shape_payloads
  · obtain ⟨filled, hf⟩ := exists_refill_eq_some h
    exact ⟨filled, mapCalls_handOut cause hf, hf, refill_eq_some_iff.1 hf⟩

/-- The parameters and the body of an abstraction are replaced in this order. -/
theorem determined_abstraction :
    (abstract ["x", "y"] "z").sameShape (abstract [true, false] true) = true ∧
    (abstract ["x", "y"] "z").payloads.length = (abstract [true, false] true).payloads.length ∧
    [1, 2, 3].length = (abstract ["x", "y"] "z").payloads.length ∧
    (abstract ["x", "y"] "z").mapCalls
        (fun _ => (handOut .noReading : EStateM Failure (List Nat) Nat)) [1, 2, 3] =
      .ok (abstract [1, 2] 3) [] := by
  obtain ⟨-, -, -, -, -, -, hl, hr⟩ := @determined_by_shape_and_payloads Failure Unit String Nat
    Bool _ (abstract ["x", "y"] "z")
  have hs : (abstract ["x", "y"] "z").sameShape (abstract [true, false] true) = true := by decide
  obtain ⟨filled, hf, -, hshape, hp⟩ := hr .noReading [1, 2, 3] rfl
  obtain rfl : filled = abstract [1, 2] 3 := eq_iff_shape_payloads.2 ⟨hshape, hp⟩
  exact ⟨hs, hl _ hs, rfl, hf⟩

/-- A transform that has nothing to answer for the number two. -/
def exhaustedAtTwo (item : Nat) : EStateM Failure Unit Nat :=
  if item = 2 then throw (.refused .exhausted "") else pure item

/-- A map can fail in a way in which no call has failed: the signal for the second payload, which
stands in a sequence, does not come out. -/
theorem mapCalls_exhaustedAtTwo :
    (apply 1 [2]).mapCalls exhaustedAtTwo () = .error .cutShort () ∧
      ∀ item before after, exhaustedAtTwo item before ≠ .error .cutShort after := by
  refine ⟨rfl, fun item before after h => ?_⟩
  rw [exhaustedAtTwo] at h
  split at h <;> cases h

end Layer

end LayeredTree
