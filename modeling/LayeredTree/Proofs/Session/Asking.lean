import LayeredTree.Proofs.Session.History
import LayeredTree.Proofs.Settings.Ambient

/-!
# Asking for the default settings

Operations come by the default settings in one way only, by asking for them. What asking comes to is
known from the ambient settings alone, since nothing else that happens in an operation before it
asks touches these. An operation that does not ask goes alike whatever the default settings are.
-/

namespace LayeredTree.Session

variable {α β : Type}

/-! ## Asking and configuring -/

/-- Keep settings as the default, unless they could not be read. -/
def settle (outcome : Except (List Settings.Error) Settings) : Action Settings :=
  onAmbient (Ambient.settle outcome)

theorem settle_ok (settings : Settings) (session : Session) : settle (.ok settings) session =
    .ok settings { session with ambient.current? := some settings } := rfl

theorem settle_error (errors : List Settings.Error) (session : Session) :
    settle (.error errors) session = .error (.invalidSettings errors) session := rfl

/-- Operations on the ambient settings may be put together first. -/
theorem onAmbient_bind (action : Ambient.Action α) (next : α → Ambient.Action β) :
    onAmbient (action >>= next) = onAmbient action >>= fun answer => onAmbient (next answer) := by
  funext session
  cases h : action session.ambient with
  | ok answer ambient =>
    have ha : onAmbient action session = .ok answer { session with ambient } := by
      rw [onAmbient, h]
    rw [Walk.bind_of_ok ha, onAmbient, Walk.bind_of_ok h]
    rfl
  | error cause ambient =>
    have ha : onAmbient action session = .error (.ofSettings cause) { session with ambient } := by
      rw [onAmbient, h]
    rw [Walk.bind_of_error ha, onAmbient, Walk.bind_of_error h]

/-- An operation on the ambient settings changes nothing else. -/
theorem stateAfter_onAmbient (action : Ambient.Action α) (session : Session) :
    Walk.stateAfter (onAmbient action session) =
      { session with ambient := Walk.stateAfter (action session.ambient) } := by
  rw [onAmbient]
  cases action session.ambient <;> rfl

/-- Keeping the number of calls depends only on what the run comes to. -/
theorem keepingTally_congr {action action' : Action α} {session : Session} {name : String}
    (h : action session = action' session) :
    keepingTally name action session = keepingTally name action' session := by
  rw [keepingTally, keepingTally]
  cases ha : action session with
  | ok answer after => rw [Walk.tryFinally_of_ok ha, Walk.tryFinally_of_ok (h ▸ ha)]
  | error cause after => rw [Walk.tryFinally_of_error ha, Walk.tryFinally_of_error (h ▸ ha)]

variable [Settings.Validation]

/-- Asking for the default settings settles what is kept, or else what the environment gives. -/
theorem guards_none (session : Session) :
    guards none session = settle session.ambient.outcome session := by
  show onAmbient Ambient.current session = _
  rw [settle, onAmbient, onAmbient, Ambient.current_eq_settle]

/-- Settings that are kept stay the default. -/
theorem guards_none_of_some {session : Session} {settings : Settings}
    (h : session.ambient.current? = some settings) :
    guards none session = .ok settings session := by
  obtain ⟨⟨environment, current?⟩⟩ := session
  obtain rfl : current? = some settings := h
  rfl

/-- Asking for the default settings twice gives the same settings. -/
theorem defaultSettings_eq (session : Session) :
    defaultSettings session =
      (settle session.ambient.outcome >>= fun settings => pure (settings, true)) session := by
  rw [defaultSettings, Walk.bind_congr_left (guards_none session)]
  cases session.ambient.outcome with
  | error errors => rfl
  | ok settings =>
    rw [Walk.bind_of_ok (settle_ok settings session), Walk.bind_of_ok (settle_ok settings session),
      Walk.bind_of_ok (guards_none_of_some rfl), beq_self_eq_true]

/-- Names that are no fields are refused before anything else happens. -/
theorem configure_of_unknown {overrides : Settings.Keywords}
    (h : (Ambient.unknownNames overrides).isEmpty = false) (session : Session) :
    configure overrides session =
      .error (.unknownSettings (Ambient.unknownNames overrides)) session := by
  have ha : onAmbient (Ambient.configure overrides) session =
      .error (.unknownSettings (Ambient.unknownNames overrides)) session := by
    rw [onAmbient, Ambient.configure_of_unknown h]
    rfl
  exact Walk.bind_of_error ha

/-- Adopting keywords settles what they are validated to. -/
theorem adopt_eq_settle (keywords : Settings.Keywords) (session : Session) :
    onAmbient (Ambient.adopt keywords) session =
      settle (Settings.validate session.ambient.environment keywords) session := by
  rw [onAmbient, Ambient.adopt_eq_settle]
  rfl

/-- Configuring asks for the default settings and adopts them with the overrides laid over. -/
theorem configure_of_known {overrides : Settings.Keywords}
    (h : (Ambient.unknownNames overrides).isEmpty = true) :
    configure overrides = (do
      let base ← guards none
      let settings ← onAmbient (Ambient.adopt (overrides.onto base.dump))
      modify (report (.settingsReplaced settings))
      return (settings, true)) := by
  rw [configure, Ambient.configure_of_known h, onAmbient_bind, bind_assoc]
  refine bind_congr fun base => funext fun session => ?_
  rw [Walk.bind_congr_left (adopt_eq_settle _ session),
    Walk.bind_congr_left (adopt_eq_settle _ session)]
  cases Settings.validate session.ambient.environment (overrides.onto base.dump) with
  | error errors => rfl
  | ok settings =>
    rw [Walk.bind_of_ok (settle_ok settings session), Walk.bind_of_ok (settle_ok settings session)]
    rw [Walk.modify_bind, Walk.modify_bind]
    -- the settings that have just been kept are the ones that the second look finds
    have hk : guards none (report (.settingsReplaced settings)
        { session with ambient.current? := some settings }) = .ok settings _ :=
      guards_none_of_some rfl
    rw [Walk.bind_of_ok hk, beq_self_eq_true]

/-- Adopting keywords laid over settings settles the overlaid settings, whatever the environment
is. -/
theorem adopt_onto_dump [Settings.LawfulValidation] (base : Settings) (round : Settings.Keywords) :
    onAmbient (Ambient.adopt (round.onto base.dump)) = settle (base.overlaid [round]) := by
  funext session
  rw [adopt_eq_settle, Settings.validate_onto_dump_eq_overlaid]

/-- What configuring comes to when all names are known. -/
inductive Configured (overrides : Settings.Keywords) (session : Session) :
    EStateM.Result Failure Session (Settings × Bool) → Prop
  /-- There are no default settings to begin with, and nothing changes. -/
  | unread {errors : List Settings.Error} (outcome : session.ambient.outcome = .error errors) :
      Configured overrides session (.error (.invalidSettings errors) session)
  /-- The overrides are refused, after the default settings have been kept. -/
  | refused {base : Settings} {errors : List Settings.Error}
      (outcome : session.ambient.outcome = .ok base)
      (validated : Settings.validate session.ambient.environment (overrides.onto base.dump) =
        .error errors) :
      Configured overrides session
        (.error (.invalidSettings errors) { session with ambient.current? := some base })
  /-- The default settings are replaced. -/
  | accepted {base settings : Settings} (outcome : session.ambient.outcome = .ok base)
      (validated : Settings.validate session.ambient.environment (overrides.onto base.dump) =
        .ok settings) :
      Configured overrides session (.ok (settings, true)
        (report (.settingsReplaced settings) { session with ambient.current? := some settings }))

theorem configured_of_known {overrides : Settings.Keywords}
    (h : (Ambient.unknownNames overrides).isEmpty = true) (session : Session) :
    Configured overrides session (configure overrides session) := by
  rw [configure_of_known h, Walk.bind_congr_left (guards_none session)]
  cases ho : session.ambient.outcome with
  | error errors => exact .unread ho
  | ok base =>
    rw [Walk.bind_of_ok (settle_ok base session), Walk.bind_congr_left (adopt_eq_settle _ _)]
    cases hv : Settings.validate session.ambient.environment (overrides.onto base.dump) with
    | error errors => exact .refused ho hv
    | ok settings => exact .accepted ho hv

/-- Settings are made from keywords and the environment, and nothing changes. -/
theorem readSettings_eq (keywords : Settings.Keywords) (session : Session) :
    readSettings (some keywords) session =
      match Settings.validate session.ambient.environment keywords with
      | .ok settings => .ok (some settings) session
      | .error errors => .error (.invalidSettings errors) session := by
  have hr := Ambient.read_eq keywords session.ambient
  rw [readSettings, map_eq_pure_bind]
  cases hv : Settings.validate session.ambient.environment keywords with
  | ok settings =>
    rw [hv] at hr
    have ha : onAmbient (Ambient.read keywords) session = .ok settings session := by
      rw [onAmbient, hr]
    rw [Walk.bind_of_ok ha]
    rfl
  | error errors =>
    rw [hv] at hr
    have ha : onAmbient (Ambient.read keywords) session =
        .error (.invalidSettings errors) session := by
      rw [onAmbient, hr]
      rfl
    rw [Walk.bind_of_error ha]

/-- Settings made from keywords do not depend on the default ones. -/
theorem alike_readSettings {a b : Ambient} (he : a.environment = b.environment)
    (keywords : Settings.Keywords) :
    Walk.Alike (Apart a b)
      (fun left right => ∃ settings, left = some settings ∧ right = some settings)
      (readSettings (some keywords)) (readSettings (some keywords)) := by
  intro left right states
  have hsame : right.ambient.environment = left.ambient.environment := by
    rw [states.eq_with, states.ambient_eq, he]
  rw [readSettings_eq, readSettings_eq, hsame]
  cases Settings.validate left.ambient.environment keywords with
  | ok settings => exact .ok ⟨settings, rfl, rfl⟩ states
  | error errors => exact .error _ states

/-- A fold under the default settings asks for them and then runs under them. -/
theorem runKind_none (kind : FoldKind) (id : NodeId) :
    runKind kind none id = guards none >>= fun settings => runKind kind (some settings) id := by
  cases kind <;>
    simp only [runKind, foldPure, foldWith, bind_assoc, map_bind] <;> rfl

/-- A comparison under the default settings asks for them and then runs under them. -/
theorem equalNodes_none (left right : NodeId) :
    equalNodes none left right =
      guards none >>= fun settings => equalNodes (some settings) left right := rfl

namespace Operation

/-- Perform an operation that comes by the default settings in a given way. -/
def performWith (default : Action Settings) : Operation → Action Answer
  | getSettings => do
    let first ← default
    let second ← default
    return .settings first (first == second)
  | configure overrides => do
    unless (Ambient.unknownNames overrides).isEmpty do
      throw (.unknownSettings (Ambient.unknownNames overrides))
    let base ← default
    let settings ← settle (base.overlaid [overrides])
    modify (report (.settingsReplaced settings))
    return .settings settings true
  | fold blueprint kind none => do
    let id ← plant blueprint
    modify fun session => { session with tally := 0 }
    .result <$> runKind kind (some (← default)) id
  | runStored name blueprint => do
    match (← get).folds.lookup name with
    | none => throw (.unbound name)
    | some stored =>
      let id ← plant blueprint
      modify fun session => { session with tally := stored.tally }
      .result <$> keepingTally name (do
        let settings ← match stored.settings? with
          | some settings => pure settings
          | none => default
        runKind stored.kind (some settings) id)
  | equal left right none => do
    let left ← plant left
    let right ← plant right
    .truth <$> equalNodes (some (← default)) left right
  | operation => operation.perform

section Laws

variable [Settings.LawfulValidation]

/-- The default settings are come by by asking for them. -/
theorem performWith_guards (operation : Operation) :
    operation.performWith (guards none) = operation.perform := by
  cases operation with
  | getSettings =>
    simp only [performWith, perform, defaultSettings, bind_assoc, pure_bind]
  | configure overrides =>
    rw [performWith, perform]
    cases h : (Ambient.unknownNames overrides).isEmpty with
    | true =>
      simp only [configure_of_known h, adopt_onto_dump, bind_assoc, pure_bind, if_true]
    | false =>
      funext session
      rw [Walk.bind_of_error (configure_of_unknown h session)]
      rfl
  | fold blueprint kind keywords? =>
    cases keywords? with
    | some keywords => rfl
    | none =>
      simp only [performWith, perform, Session.fold, readSettings, runKind_none, map_bind,
        pure_bind]
  | runStored name blueprint =>
    simp only [performWith, perform, Session.runStored, map_bind]
    refine bind_congr fun session => ?_
    cases session.folds.lookup name with
    | none => rfl
    | some stored =>
      simp only [map_bind]
      refine bind_congr fun id => bind_congr fun _ => ?_
      cases stored.settings? with
      | some settings => rfl
      | none => simp only [runKind_none]
  | equal left right keywords? =>
    cases keywords? with
    | some keywords => rfl
    | none =>
      simp only [performWith, perform, Session.equal, readSettings, equalNodes_none, map_bind,
        pure_bind]
  | _ => rfl

/-- An operation that asks for the default settings finds what is kept, or else what the environment
gives. -/
theorem perform_eq_performWith_settle (operation : Operation) (session : Session) :
    operation.perform session =
      operation.performWith (settle session.ambient.outcome) session := by
  rw [← performWith_guards]
  have hg (other : Session) (h : other.ambient = session.ambient) :
      guards none other = settle session.ambient.outcome other := by
    rw [guards_none, h]
  cases operation with
  | getSettings =>
    rw [performWith_guards, perform, Walk.bind_congr_left (defaultSettings_eq session), performWith]
    cases session.ambient.outcome with
    | error errors => rfl
    | ok settings =>
      rw [Walk.bind_of_ok (settle_ok settings session), Walk.bind_of_ok (settle_ok settings _),
        beq_self_eq_true]
      rfl
  | configure overrides =>
    simp only [performWith]
    cases (Ambient.unknownNames overrides).isEmpty with
    | true => exact Walk.bind_congr_left (hg session rfl) _
    | false => rfl
  | fold blueprint kind keywords? =>
    cases keywords? with
    | some keywords => rfl
    | none =>
      refine (blind_plant blueprint).bind_congr fun id after ha => ?_
      rw [Walk.modify_bind, Walk.modify_bind]
      refine Walk.bind_congr_left (hg _ ?_) _
      exact ha
  | runStored name blueprint =>
    rw [performWith, performWith, Walk.get_bind, Walk.get_bind]
    cases session.folds.lookup name with
    | none => rfl
    | some stored =>
      refine (blind_plant blueprint).bind_congr fun id after ha => ?_
      rw [Walk.modify_bind, Walk.modify_bind]
      refine Walk.map_congr (keepingTally_congr ?_)
      cases stored.settings? with
      | some settings => rfl
      | none =>
        refine Walk.bind_congr_left (hg _ ?_) _
        exact ha
  | equal left right keywords? =>
    cases keywords? with
    | some keywords => rfl
    | none =>
      refine (blind_plant left).bind_congr fun left between hl => ?_
      refine (blind_plant right).bind_congr fun right after hr => ?_
      exact Walk.bind_congr_left (hg _ (hr.trans hl)) _
  | _ => rfl

end Laws

/-- An operation that neither asks for the default settings nor changes the ambient ones goes alike
whatever the default settings are. -/
theorem alike_of_not_asks {operation : Operation} {session : Session}
    (h : operation.asks session = false) (hr : operation.isReset = false)
    (hs : operation.setsVariable = false) (other : Option Settings) :
    Walk.ResultAlike (Apart session.ambient { session.ambient with current? := other }) Eq
      (operation.perform session)
      (operation.perform { session with ambient.current? := other }) := by
  have states := Apart.of_session session { session.ambient with current? := other }
  have hread (keywords : Settings.Keywords) := alike_readSettings (a := session.ambient)
    (b := { session.ambient with current? := other }) rfl keywords
  cases operation with
  | setVariable name value? => cases hs
  | getSettings => cases h
  | resetSettings => cases hr
  | configure overrides =>
    have he (session : Session) := configure_of_unknown h session
    rw [perform, Walk.bind_of_error (he _), Walk.bind_of_error (he _)]
    exact .error _ states
  | bindName name blueprint =>
    have hb : Blind ((bindName name blueprint).perform) :=
      ((blind_plant blueprint).bind fun _ => blind_modify fun _ _ => rfl).bind fun _ => blind_pure _
    exact hb _ _ _ _ states
  | fold blueprint kind keywords? =>
    simp only [perform, Session.fold, map_bind]
    cases keywords? with
    | none => exact (blind_plant blueprint).alike_bind_of_fails states h _
    | some keywords =>
      refine (blind_plant blueprint _ _).bind (fun id _ he => ?_) _ _ states
      subst he
      refine (hread keywords).bind fun _ _ hk => ?_
      obtain ⟨settings, rfl, rfl⟩ := hk
      exact (blind_modify fun _ _ => rfl).bind
        (fun _ => (blind_runKind kind settings id).map _) _ _
  | storeFold name kind keywords? =>
    simp only [perform, Session.storeFold, bind_assoc]
    have hkeep (settings? : Option Settings) : Blind (do
        modify fun session : Session =>
          { session with folds := (name, ⟨kind, settings?, 0⟩) :: session.folds }
        return Answer.done : Action Answer) :=
      (blind_modify fun _ _ => rfl).bind fun _ => blind_pure _
    cases keywords? with
    | none => exact hkeep none _ _ _ _ states
    | some keywords =>
      refine (hread keywords).bind (fun _ _ hk => ?_) _ _ states
      obtain ⟨settings, rfl, rfl⟩ := hk
      exact hkeep _ _ _
  | runStored name blueprint =>
    simp only [perform, Session.runStored, map_bind]
    rw [Walk.get_bind, Walk.get_bind]
    rw [asks] at h
    cases hl : session.folds.lookup name with
    | none => exact .error _ states
    | some stored =>
      rw [hl] at h
      simp only [map_bind]
      cases hp : succeeds (plant blueprint) session with
      | false => exact (blind_plant blueprint).alike_bind_of_fails states hp _
      | true =>
        cases hsettings : stored.settings? with
        | none => simp [hsettings, hp] at h
        | some settings =>
          refine ((blind_plant blueprint).bind fun id => (blind_modify fun _ _ => rfl).bind fun _ =>
            ((blind_runKind stored.kind settings id).keepingTally name).map _) _ _ _ _ states
  | equal left right keywords? =>
    simp only [perform, Session.equal, map_bind]
    cases keywords? with
    | none =>
      have hf := (blind_plantBoth left right).alike_bind_of_fails states h
        fun (left, right) => Answer.truth <$> equalNodes none left right
      simpa only [plantBoth, bind_assoc, pure_bind, readSettings] using hf
    | some keywords =>
      refine (blind_plant left _ _).bind (fun left _ he => ?_) _ _ states
      subst he
      refine (blind_plant right _ _).bind (fun right _ he => ?_)
      subst he
      refine (hread keywords).bind fun _ _ hk => ?_
      obtain ⟨settings, rfl, rfl⟩ := hk
      exact (blind_equalNodes settings left right).map _ _ _

end Operation

end LayeredTree.Session
