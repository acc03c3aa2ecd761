import LayeredTree.Proofs.Relational
import LayeredTree.Session.Comparing

/-!
# Operations that are blind to the ambient settings

Most of what a session does has nothing to do with its environment and its default settings: trees
are made, layers are revealed, and a walk runs once its settings are known. Such an operation is
blind to the ambient settings. It goes alike whatever they are, and leaves them as they are.
-/

namespace LayeredTree.Session

variable {ε α β : Type}

/-- Sessions with the given ambient settings that do not differ in anything else. -/
structure Apart (a b : Ambient) (left right : Session) : Prop where
  /-- The ambient settings of the one session. -/
  ambient_eq : left.ambient = a
  /-- The other session has other ambient settings and is the same otherwise. -/
  eq_with : right = { left with ambient := b }

theorem Apart.of_session (session : Session) (ambient : Ambient) :
    Apart session.ambient ambient session { session with ambient } := ⟨rfl, rfl⟩

/-- A computation goes alike under all ambient settings, and leaves them as they are. -/
def Blind (action : EStateM ε Session α) : Prop :=
  ∀ a b, Walk.Alike (Apart a b) Eq action action

/-- A blind computation leaves the ambient settings as they are. -/
theorem Blind.ambient_eq {action : EStateM ε Session α} (h : Blind action) (session : Session) :
    (Walk.stateAfter (action session)).ambient = session.ambient :=
  (h session.ambient session.ambient session session ⟨rfl, rfl⟩).states.ambient_eq

section Closure

theorem blind_pure (answer : α) : Blind (pure answer : EStateM ε Session α) :=
  fun _ _ => Walk.alike_pure rfl

theorem blind_throw (cause : ε) : Blind (throw cause : EStateM ε Session α) :=
  fun _ _ _ _ states => .error cause states

/-- A sequence of blind computations is blind. -/
theorem Blind.bind {action : EStateM ε Session α} {next : α → EStateM ε Session β}
    (h : Blind action) (hn : ∀ answer, Blind (next answer)) : Blind (action >>= next) := by
  intro a b
  refine (h a b).bind fun answer _ he => ?_
  subst he
  exact hn answer a b

/-- After a blind computation the ambient settings are what they were, so the rest of a sequence
counts only by what it does under these. -/
theorem Blind.bind_congr {action : EStateM ε Session α} (h : Blind action) {session : Session}
    {f g : α → EStateM ε Session β}
    (hn : ∀ answer after, after.ambient = session.ambient → f answer after = g answer after) :
    (action >>= f) session = (action >>= g) session := by
  have ha := h.ambient_eq session
  cases hr : action session with
  | ok answer after =>
    rw [hr] at ha
    rw [Walk.bind_of_ok hr, Walk.bind_of_ok hr, hn answer after ha]
  | error cause after => rw [Walk.bind_of_error hr, Walk.bind_of_error hr]

/-- Whether a computation has an answer. -/
def succeeds (action : EStateM ε Session α) (session : Session) : Bool :=
  match action session with
  | .ok _ _ => true
  | .error _ _ => false

/-- Where a blind computation fails, nothing that would follow it counts. -/
theorem Blind.alike_bind_of_fails {action : EStateM ε Session α} (h : Blind action) {a b : Ambient}
    {left right : Session} (states : Apart a b left right) (hf : succeeds action left = false)
    (next : α → EStateM ε Session β) :
    Walk.ResultAlike (Apart a b) Eq ((action >>= next) left) ((action >>= next) right) := by
  have ha := h a b left right states
  rw [succeeds] at hf
  cases hl : action left with
  | ok answer after =>
    rw [hl] at hf
    cases hf
  | error cause after =>
    rw [hl] at ha
    obtain ⟨after', hr, states'⟩ := ha.exists_error
    rw [Walk.bind_of_error hl, Walk.bind_of_error hr]
    exact .error cause states'

/-- After a blind computation with an answer, what is kept in the end is up to the rest. -/
theorem current?_after_blind {prepare : EStateM ε Session α} (hp : Blind prepare)
    {session : Session} (h : succeeds prepare session = true) {rest : α → EStateM ε Session β}
    {current? : Option Settings} (hr : ∀ answer after, after.ambient = session.ambient →
      (Walk.stateAfter (rest answer after)).ambient.current? = current?) :
    (Walk.stateAfter ((prepare >>= rest) session)).ambient.current? = current? := by
  have ha := hp.ambient_eq session
  rw [succeeds] at h
  cases hs : prepare session with
  | ok answer after =>
    rw [hs] at ha
    rw [Walk.bind_of_ok hs]
    exact hr answer after ha
  | error cause after =>
    rw [hs] at h
    cases h

/-- A blind computation stays so when its answer is changed. -/
theorem Blind.map {action : EStateM ε Session α} (h : Blind action) (f : α → β) :
    Blind (f <$> action) := by
  rw [map_eq_pure_bind]
  exact h.bind fun answer => blind_pure _

/-- A computation that begins with a look at the session is blind when it does not look at the
ambient settings. -/
theorem blind_get_bind {next : Session → EStateM ε Session α} (h : ∀ session, Blind (next session))
    (hn : ∀ session ambient, next { session with ambient } = next session) :
    Blind (get >>= next) := by
  intro a b left right states
  show Walk.ResultAlike _ _ (next left left) (next right right)
  have he : next right = next left := by rw [states.eq_with, hn]
  rw [he]
  exact h left a b left right states

/-- A change is blind when it does the same under all ambient settings. -/
theorem blind_modifyGet {f : Session → α × Session}
    (h : ∀ session ambient,
      f { session with ambient } = ((f session).1, { (f session).2 with ambient })) :
    Blind (modifyGet f : EStateM ε Session α) := by
  intro a b left right states
  have hr := h left b
  rw [← states.eq_with] at hr
  have hl := congrArg (fun changed => changed.2.ambient) (h left left.ambient)
  show Walk.ResultAlike _ _ (.ok (f left).1 (f left).2) (.ok (f right).1 (f right).2)
  rw [hr]
  exact .ok rfl ⟨hl.trans states.ambient_eq, rfl⟩

theorem blind_modify {f : Session → Session}
    (h : ∀ session ambient, f { session with ambient } = { f session with ambient }) :
    Blind (modify f : EStateM ε Session PUnit) :=
  blind_modifyGet fun session ambient => by rw [h]

/-- Repeating a blind computation is blind. -/
theorem blind_foldlM {ι : Type} {f : α → ι → EStateM ε Session α} (h : ∀ a i, Blind (f a i))
    (items : List ι) (start : α) : Blind (items.foldlM f start) := by
  induction items generalizing start with
  | nil => exact blind_pure start
  | cons item items ih => exact (h start item).bind ih

/-- A blind walk is a blind operation. -/
theorem Blind.walk {action : Walk Failure Session α} (h : Blind action) : Blind (walk action) := by
  intro a b left right states
  have hs := h a b left right states
  unfold Session.walk
  generalize action left = l, action right = r at hs
  cases hs with
  | ok answers states => exact .ok answers states
  | error cause states => exact .error (Failure.ofInterruption cause) states

end Closure

/-! ## Making trees and revealing layers -/

theorem blind_allocate (origin : Origin) : Blind (allocate origin) :=
  blind_modifyGet fun _ _ => rfl

open Blueprint in
mutual

/-- Making the nodes of a blueprint is blind. -/
theorem blind_evaluate (scope : Scope) : ∀ blueprint, Blind (evaluate scope blueprint)
  | node (.apply callee arguments) => by
    rw [evaluate]
    exact (blind_evaluate scope callee).bind fun _ =>
      (blind_evaluateAll scope arguments).bind fun _ => blind_allocate _
  | node (.abstract parameters body) => by
    rw [evaluate]
    exact (blind_evaluateAll scope parameters).bind fun _ =>
      (blind_evaluate scope body).bind fun _ => blind_allocate _
  | node (.assign name value) => by
    rw [evaluate]
    exact (blind_evaluate scope value).bind fun _ => blind_allocate _
  | node (.var name) => by
    rw [evaluate]
    exact blind_allocate _
  | node (.literal value) => by
    rw [evaluate]
    exact blind_allocate _
  | node (.group label members) => by
    rw [evaluate]
    exact (blind_evaluate scope label).bind fun _ =>
      (blind_evaluateAll scope members).bind fun _ => blind_allocate _
  | deferred body => by
    rw [evaluate]
    exact blind_allocate _
  | traced label body => by
    rw [evaluate]
    exact blind_allocate _
  | refusing signal text => by
    rw [evaluate]
    exact blind_allocate _
  | bound name value body => by
    rw [evaluate]
    exact (blind_evaluate scope value).bind fun id =>
      blind_evaluate ((name, .node id) :: scope) body
  | ref name => by
    rw [evaluate]
    split
    · exact blind_pure _
    · exact blind_allocate _
    · exact blind_throw _
  | recursive name body => by
    rw [evaluate]
    exact blind_allocate _
  | endless name body => by
    rw [evaluate]
    exact blind_allocate _
  | repeated count name wrapper start => by
    rw [evaluate]
    exact (blind_evaluate scope start).bind (blind_foldlM (fun previous _ =>
      blind_evaluate ((name, .node previous) :: scope) wrapper) (List.replicate count ()))
  | foreign kind => by
    rw [evaluate]
    exact blind_throw _

/-- Making the nodes of several blueprints is blind. -/
theorem blind_evaluateAll (scope : Scope) : ∀ blueprints, Blind (evaluateAll scope blueprints)
  | [] => by
    rw [evaluateAll]
    exact blind_pure _
  | blueprint :: blueprints => by
    rw [evaluateAll]
    exact (blind_evaluate scope blueprint).bind fun _ =>
      (blind_evaluateAll scope blueprints).bind fun _ => blind_pure _

end

/-- Making a tree is blind. -/
theorem blind_plant (blueprint : Blueprint) : Blind (plant blueprint) :=
  blind_get_bind (fun session => blind_evaluate session.scope blueprint) fun _ _ => rfl

/-- Making the tree that a node reveals is blind. -/
theorem blind_unwrap (id : NodeId) (origin : Origin) : Blind (unwrap id origin) := by
  cases origin with
  | captured layer => exact blind_pure id
  | deferred body scope => exact blind_evaluate scope body
  | traced label body scope =>
    exact (blind_modify fun _ _ => rfl).bind fun _ => blind_evaluate scope body
  | refusing signal text => exact blind_throw _
  | recursive name body scope => exact blind_evaluate _ body
  | endless name body scope => exact blind_evaluate _ body

/-- Revealing a layer is blind. -/
theorem blind_revealWithin (turns : Nat) (id : NodeId) : Blind (revealWithin turns id) := by
  induction turns generalizing id with
  | zero => exact blind_throw _
  | succ turns ih =>
    refine blind_get_bind (fun session => ?_) fun _ _ => rfl
    split
    · exact blind_pure _
    · exact (blind_unwrap id _).bind ih
    · exact blind_throw _

theorem alike_forest (a b : Ambient) : forest.Alike (Apart a b) forest where
  produce id := (blind_revealWithin turnLimit id).bind (fun _ => blind_pure _) a b
  report notice _ _ states := by
    obtain ⟨hl, hr⟩ := states
    exact ⟨hl, by rw [hr]; rfl⟩

/-! ## Walks under settings of their own -/

/-- A fold under given settings is blind when its algebra is. -/
theorem blind_fold {algebra : Algebra Failure Session α} (h : ∀ layer, Blind (algebra layer))
    (settings : Settings) (id : NodeId) : Blind (forest.fold settings algebra id) := by
  intro a b
  refine Fold.alike_fold (alike_forest a b) (fun layer layer' hl => ?_) settings id
  rw [Layer.rel_eq_iff.1 hl]
  exact h layer' a b

/-- A comparison under given settings is blind. -/
theorem blind_equal (settings : Settings) (left right : NodeId) :
    Blind (forest.equal settings left right) :=
  fun a b => Comparison.alike_equal ((alike_forest a b).within settings.maxDepth) rfl rfl

/-- The recording algebra is blind. -/
theorem blind_recordCall (stopAt : Option Int) (layer : Layer Nat) :
    Blind (recordCall stopAt layer) := by
  refine blind_get_bind (fun session => ?_) fun _ _ => rfl
  refine (blind_modify fun _ _ => rfl).bind fun _ => ?_
  split
  · split
    · exact blind_throw _
    · exact blind_pure _
  · exact blind_pure _

section Validated

variable [Settings.Validation]

theorem blind_foldWith {algebra : Algebra Failure Session α} (h : ∀ layer, Blind (algebra layer))
    (settings : Settings) (id : NodeId) : Blind (foldWith (some settings) algebra id) :=
  (blind_pure settings).bind fun settings => (blind_fold h settings id).walk

theorem blind_equalNodes (settings : Settings) (left right : NodeId) :
    Blind (equalNodes (some settings) left right) :=
  (blind_pure settings).bind fun settings => (blind_equal settings left right).walk

theorem blind_foldPure (combine : Layer α → α) (settings : Settings) (id : NodeId) :
    Blind (foldPure (some settings) combine id) :=
  blind_foldWith (fun _ => blind_pure _) settings id

/-- A fold of any kind is blind under given settings. -/
theorem blind_runKind (kind : FoldKind) (settings : Settings) (id : NodeId) :
    Blind (runKind kind (some settings) id) := by
  cases kind with
  | count => exact (blind_foldPure _ settings id).bind fun _ => blind_pure _
  | height => exact (blind_foldPure _ settings id).bind fun _ => blind_pure _
  | tags => exact (blind_foldPure _ settings id).map _
  | strings => exact (blind_foldPure _ settings id).map _
  | debug => exact (blind_foldPure _ settings id).map _
  | plain => exact (blind_foldPure _ settings id).map _
  | pretty => exact (blind_foldPure _ settings id).map _
  | notated => exact (blind_foldPure _ settings id).map _
  | freeNames => exact (blind_foldPure _ settings id).bind fun _ => blind_pure _
  | recording stopAt =>
    exact (blind_foldWith (blind_recordCall stopAt) settings id).bind fun _ => blind_pure _

end Validated

/-- Keeping the number of calls is blind when the run is. -/
theorem Blind.keepingTally {action : Action α} (h : Blind action) (name : String) :
    Blind (keepingTally name action) := by
  intro a b left right states
  have hs := h a b left right states
  generalize hl : action left = l, hr : action right = r at hs
  rw [Session.keepingTally]
  cases hs with
  | ok answers states =>
    rw [Walk.tryFinally_of_ok hl, Walk.tryFinally_of_ok hr]
    exact .ok answers ⟨states.ambient_eq, by rw [states.eq_with]⟩
  | error cause states =>
    rw [Walk.tryFinally_of_error hl, Walk.tryFinally_of_error hr]
    exact .error cause ⟨states.ambient_eq, by rw [states.eq_with]⟩

/-- Keeping the number of calls leaves the ambient settings as the run has left them. -/
theorem ambient_keepingTally (action : Action α) (name : String) (session : Session) :
    (Walk.stateAfter (keepingTally name action session)).ambient =
      (Walk.stateAfter (action session)).ambient := by
  rw [keepingTally]
  cases h : action session with
  | ok answer after => rw [Walk.tryFinally_of_ok h]; rfl
  | error cause after => rw [Walk.tryFinally_of_error h]; rfl

end LayeredTree.Session
