import LayeredTree.Proofs.Layer.Traversal
import LayeredTree.Proofs.Unfolding
import LayeredTree.Proofs.Walk

/-!
# Pure forests

In a pure forest every node stands for a tree: its layer can always be revealed, the nodes in that
layer stand for the children of the tree, and no node stops standing for its tree when a layer is
revealed. The nodes need not be the same ones each time, and the trees may share parts, contain
themselves or never end. A computation on a pure forest ends well when its answers and failures are
as expected and all nodes go on standing for their trees.
-/

universe u

namespace LayeredTree

variable {ε σ ν α β : Type} {τ : Type u}

/-- Every node goes on standing for the trees that it stands for. -/
def Keeps (stands : σ → ν → τ → Prop) (before after : σ) : Prop :=
  ∀ node tree, stands before node tree → stands after node tree

theorem Keeps.refl (stands : σ → ν → τ → Prop) (state : σ) : Keeps stands state state :=
  fun _ _ h => h

theorem Keeps.trans {stands : σ → ν → τ → Prop} {before between after : σ}
    (h : Keeps stands before between) (h' : Keeps stands between after) :
    Keeps stands before after :=
  fun node tree hs => h' node tree (h node tree hs)

/-- The trees that the nodes of a pure forest stand for. -/
structure Forest.Interpretation (forest : Forest ε σ ν) (view : τ → Layer τ) where
  /-- In a state, a node stands for a tree. -/
  stands : σ → ν → τ → Prop
  /-- The layer of a node that stands for a tree can be revealed, and its nodes stand for the
  children of the tree. -/
  reveals : ∀ {before : σ} {node : ν} {tree : τ}, stands before node tree →
    ∃ layer after, forest.produce node before = .ok layer after ∧
      Layer.Rel (stands after) layer (view tree) ∧ Keeps stands before after

/-- Where revealing a layer has no effect and follows a view, every node stands for itself. -/
def Forest.Shows.interpretation {forest : Forest ε σ ν} {view : ν → Layer ν}
    (h : forest.Shows view) : forest.Interpretation view where
  stands _ node tree := node = tree
  reveals := by
    rintro before node _ rfl
    exact ⟨view node, before, h node before, Layer.rel_eq_iff.2 rfl, .refl _ before⟩

/-- The forest of a view in which every node that a layer reveals is a new one, with a number of
its own. The state is the next number. -/
def Forest.renewing {τ : Type} (view : τ → Layer τ) : Forest ε Nat (Nat × τ) where
  produce node := (view node.2).traverse fun child next => .ok (next, child) (next + 1)
  report _ next := next

namespace Walk

section Outcome

variable {stands : σ → ν → τ → Prop} {before : σ}

/-- An answer is as expected and all nodes go on standing for their trees, or else the failure is
as expected. -/
inductive Ends (stands : σ → ν → τ → Prop) (post : α → σ → Prop) (fails : ε → Prop)
    (before : σ) : EStateM.Result ε σ α → Prop
  | ok {answer : α} {after : σ} (keeps : Keeps stands before after) (holds : post answer after) :
      Ends stands post fails before (.ok answer after)
  | error {cause : ε} {after : σ} (holds : fails cause) :
      Ends stands post fails before (.error cause after)

variable {post : α → σ → Prop} {fails : ε → Prop}

theorem ends_pure {answer : α} (h : post answer before) :
    Ends stands post fails before ((pure answer : EStateM ε σ α) before) :=
  .ok (.refl _ _) h

/-- What is expected may be weakened. -/
theorem Ends.imp {post' : α → σ → Prop} {fails' : ε → Prop} {result : EStateM.Result ε σ α}
    (h : Ends stands post fails before result)
    (hp : ∀ answer after, post answer after → post' answer after)
    (hf : ∀ cause, fails cause → fails' cause) : Ends stands post' fails' before result := by
  cases h with
  | ok keeps holds => exact .ok keeps (hp _ _ holds)
  | error holds => exact .error (hf _ holds)

/-- Where no failure is expected, there is an answer. -/
theorem Ends.exists_ok {result : EStateM.Result ε σ α} (h : Ends stands post fails before result)
    (hf : ∀ cause, ¬fails cause) :
    ∃ answer after, result = .ok answer after ∧ Keeps stands before after ∧ post answer after := by
  cases h with
  | ok keeps holds => exact ⟨_, _, rfl, keeps, holds⟩
  | error holds => exact absurd holds (hf _)

/-- What ends well from a later state on ends well from an earlier one. -/
theorem Ends.of_keeps {between : σ} (hk : Keeps stands before between)
    {result : EStateM.Result ε σ α} (h : Ends stands post fails between result) :
    Ends stands post fails before result := by
  cases h with
  | ok keeps holds => exact .ok (hk.trans keeps) holds
  | error holds => exact .error holds

/-- A sequence ends well when the rest does after every expected answer of the first part. -/
theorem Ends.bind {action : EStateM ε σ α} {next : α → EStateM ε σ β} {goal : β → σ → Prop}
    (h : Ends stands post fails before (action before))
    (hn : ∀ answer between, Keeps stands before between → post answer between →
      Ends stands goal fails between (next answer between)) :
    Ends stands goal fails before ((action >>= next) before) := by
  generalize hr : action before = result at h
  cases h with
  | @ok answer between keeps holds =>
    rw [bind_of_ok hr]
    exact (hn answer between keeps holds).of_keeps keeps
  | error holds =>
    rw [bind_of_error hr]
    exact .error holds

/-- A run over a list, each item with a thing of another list, ends well when it does for each item
after all items in earlier places have been answered as expected. -/
theorem Ends.mapM_at {ι κ : Type*} {f : ι → EStateM ε σ α} {Q : ι → κ → Prop} {P : κ → α → Prop}
    {items : List ι} {things : List κ} (hi : List.Forall₂ Q items things)
    (h : ∀ (position : Nat) item thing, items[position]? = some item →
      things[position]? = some thing → Q item thing →
      ∀ between, Keeps stands before between →
        (∀ (earlier : Nat) other, earlier < position → things[earlier]? = some other →
          ∃ answer, P other answer) →
        Ends stands (fun answer _ => P thing answer) fails between (f item between)) :
    Ends stands (fun answers _ => List.Forall₂ P things answers) fails before
      (items.mapM f before) := by
  induction hi generalizing before with
  | nil =>
    rw [List.mapM_nil]
    exact ends_pure .nil
  | @cons item thing items things head _ ih =>
    rw [List.mapM_cons]
    have hh := h 0 item thing rfl rfl head before (.refl _ _) fun _ _ he =>
      absurd he (Nat.not_lt_zero _)
    refine hh.bind fun answer between hk hp => ?_
    refine Ends.bind (ih fun position item thing ha hb hq later hl hdone => ?_)
      fun answers later _ hps => ends_pure (.cons hp hps)
    refine h (position + 1) item thing ha hb hq later (hk.trans hl) fun earlier other he ho => ?_
    cases earlier with
    | zero =>
      obtain rfl := Option.some.inj ho
      exact ⟨answer, hp⟩
    | succ earlier => exact hdone earlier other (Nat.lt_of_succ_lt_succ he) ho

/-- A traversal ends well when it does for each payload, whatever happened before, once all
payloads in earlier places have been answered as expected. -/
theorem Ends.traverse_at {ι κ : Type*} {f : ι → EStateM ε σ α} {Q : ι → κ → Prop}
    {P : κ → α → Prop} {layer : Layer ι} {model : Layer κ} (hl : Layer.Rel Q layer model)
    (h : ∀ (position : Nat) item thing, layer.payloads[position]? = some item →
      model.payloads[position]? = some thing → Q item thing →
      ∀ between, Keeps stands before between →
        (∀ (earlier : Nat) other, earlier < position → model.payloads[earlier]? = some other →
          ∃ answer, P other answer) →
        Ends stands (fun answer _ => P thing answer) fails between (f item between)) :
    Ends stands (fun answers _ => Layer.Rel P model answers) fails before
      (layer.traverse f before) := by
  rw [layer.traverse_eq_mapM_bind f]
  refine (Ends.mapM_at hl.payloads h).bind fun answers between _ hp => ?_
  have hlen : answers.length = layer.payloads.length := by
    rw [hl.payloads.length_eq, hp.length_eq]
  obtain ⟨filled, hf⟩ := Layer.exists_refill_eq_some hlen
  obtain ⟨hs, rfl⟩ := Layer.refill_eq_some_iff.1 hf
  rw [hf, Option.elim_some]
  exact ends_pure (.of_payloads (hl.shape_eq.symm.trans hs.symm) hp)

/-- A traversal ends well when it does for each payload, whatever happened before. -/
theorem Ends.traverse {ι κ : Type*} {f : ι → EStateM ε σ α} {Q : ι → κ → Prop}
    {P : κ → α → Prop} {layer : Layer ι} {model : Layer κ} (hl : Layer.Rel Q layer model)
    (h : ∀ item thing, thing ∈ model.payloads → Q item thing →
      ∀ between, Keeps stands before between →
        Ends stands (fun answer _ => P thing answer) fails between (f item between)) :
    Ends stands (fun answers _ => Layer.Rel P model answers) fails before
      (layer.traverse f before) :=
  .traverse_at hl fun _ item thing _ ht hq between hk _ =>
    h item thing (List.mem_of_getElem? ht) hq between hk

/-- The test whether all items pass ends well when the test of each item does. It says yes of all
items, or no of one, and a failure is one of some item. -/
theorem Ends.allM {ι κ : Type*} {f : ι → EStateM ε σ Bool} {Q : ι → κ → Prop} {yes no : κ → Prop}
    {fails : κ → ε → Prop} {items : List ι} {things : List κ} (hi : List.Forall₂ Q items things)
    (h : ∀ item thing, Q item thing → ∀ between, Keeps stands before between →
      Ends stands (fun answer _ => if answer then yes thing else no thing) (fails thing) between
        (f item between)) :
    Ends stands
      (fun answer _ => if answer then ∀ thing ∈ things, yes thing else ∃ thing ∈ things, no thing)
      (fun cause => ∃ thing ∈ things, fails thing cause) before (items.allM f before) := by
  induction hi generalizing before with
  | nil =>
    rw [List.allM_nil]
    exact ends_pure (by simp)
  | @cons item thing items things head _ ih =>
    rw [List.allM_cons]
    have hh := (h item thing head before (.refl _ _)).imp (fun _ _ hp => hp) fun cause hf =>
      (⟨thing, List.mem_cons_self, hf⟩ : ∃ other ∈ thing :: things, fails other cause)
    refine hh.bind fun answer between hk hp => ?_
    cases answer with
    | true =>
      have hr := ih fun item thing hq later hl => h item thing hq later (hk.trans hl)
      refine hr.imp (fun answer _ ha => ?_) fun cause hf => ?_
      · cases answer with
        | true => exact List.forall_mem_cons.2 ⟨hp, ha⟩
        | false => exact List.exists_mem_cons_of_exists ha
      · exact List.exists_mem_cons_of_exists hf
    | false => exact ends_pure ⟨thing, List.mem_cons_self, hp⟩

end Outcome

end Walk

namespace Forest.Interpretation

variable {forest : Forest ε σ ν} {view : τ → Layer τ} (meaning : forest.Interpretation view)

/-- Revealing the layer of a node as a part of a walk never fails. -/
theorem exists_reveal_eq_ok {before : σ} {node : ν} {tree : τ}
    (h : meaning.stands before node tree) :
    ∃ layer after, forest.reveal node before = .ok layer after ∧
      forest.produce node before = .ok layer after ∧
      Layer.Rel (meaning.stands after) layer (view tree) ∧ Keeps meaning.stands before after := by
  obtain ⟨layer, after, hp, hl, hk⟩ := meaning.reveals h
  exact ⟨layer, after, reveal_of_ok hp, hp, hl, hk⟩

/-- Revealing the layer of a node ends with nodes that stand for the children of the tree. -/
theorem ends_reveal {before : σ} {node : ν} {tree : τ} (h : meaning.stands before node tree)
    (fails : Interruption ε → Prop) :
    Walk.Ends meaning.stands (fun layer after => Layer.Rel (meaning.stands after) layer (view tree))
      fails before (forest.reveal node before) := by
  obtain ⟨layer, after, hr, -, hl, hk⟩ := meaning.exists_reveal_eq_ok h
  rw [hr]
  exact .ok hk hl

/-- Trees that one node stands for have the same unfolding. -/
theorem agree_of_stands {before : σ} {node : ν} {tree other : τ}
    (ht : meaning.stands before node tree) (ho : meaning.stands before node other) :
    Agree view tree other := by
  refine agree_of_bisimulation
    (R := fun a b => ∃ state node, meaning.stands state node a ∧ meaning.stands state node b)
    ?_ ⟨before, node, ht, ho⟩
  rintro a b ⟨state, node, ha, hb⟩
  obtain ⟨layer, after, hp, hl, -⟩ := meaning.reveals ha
  obtain ⟨layer', after', hp', hl', -⟩ := meaning.reveals hb
  -- one node reveals one layer, whichever of its trees is considered
  obtain ⟨rfl, rfl⟩ : layer = layer' ∧ after = after' := by simpa [hp] using hp'
  exact (hl.of_common hl').imp fun x y ⟨child, hx, hy⟩ => ⟨after, child, hx, hy⟩

end Forest.Interpretation

/-- A forest that makes its nodes anew is pure: a node stands for the tree that it holds. -/
def Forest.renewingInterpretation {τ : Type} (view : τ → Layer τ) :
    (Forest.renewing view : Forest ε Nat (Nat × τ)).Interpretation view where
  stands _ node tree := node.2 = tree
  reveals := by
    rintro before ⟨number, tree⟩ _ rfl
    let holds (_ : Nat) (node : Nat × τ) (tree : τ) : Prop := node.2 = tree
    have he : Walk.Ends holds (fun layer _ => Layer.Rel (fun child node => node.2 = child)
        (view tree) layer) (fun (_ : ε) => False) before
        ((Forest.renewing view).produce (number, tree) before) :=
      .traverse (Layer.rel_eq_iff.2 rfl) fun _ _ _ hc _ _ => .ok (fun _ _ h => h) hc
    obtain ⟨layer, after, hr, hk, hl⟩ := he.exists_ok fun _ h => h
    exact ⟨layer, after, hr, hl.flip, hk⟩

end LayeredTree
