import LayeredTree.Proofs.Session.Asking
import LayeredTree.Proofs.Settings.Reading

/-!
# The default settings in effect

The default settings are kept from the moment when they are first asked for with success until they
are reset. What is kept at any time is the base with the rounds of configurations laid over it. One
step keeps this up, whatever the operation is, and so does every history.
-/

namespace LayeredTree

section Validated

variable [Settings.Validation]

/-- What the kept default comes from: nothing while there is no base, and else the base with the
rounds laid over it. -/
inductive Settings.Kept : Option Settings → List Settings.Keywords → Option Settings → Prop
  | unread : Kept none [] none
  | read {base current : Settings} {rounds : List Settings.Keywords}
      (known : ∀ round ∈ rounds, round.Known) (overlaid : base.overlaid rounds = .ok current) :
      Kept (some base) rounds (some current)

namespace Settings.Kept

variable [Settings.LawfulValidation] {base? : Option Settings} {rounds : List Keywords}

/-- When the default is asked for, the environment gives the base and the default where there are
none. -/
theorem ask {current? : Option Settings} (h : Kept base? rounds current?)
    (environment : Environment) :
    Kept (base?.or (validate environment []).toOption) rounds
      (current?.or (validate environment []).toOption) := by
  cases h with
  | read known overlaid => exact .read known overlaid
  | unread =>
    cases hv : validate environment [] with
    | error errors => exact .unread
    | ok settings =>
      exact .read (List.forall_mem_nil _) (overlaid_nil_of_validate Keywords.known_nil hv)

/-- A round that is accepted is laid over what has been kept before. -/
theorem replace {current settings : Settings} (h : Kept base? rounds (some current))
    {round : Keywords} (round_known : round.Known)
    (accepted : current.overlaid [round] = .ok settings) :
    Kept base? (rounds ++ [round]) (some settings) := by
  cases h with
  | read known overlaid =>
    refine .read (List.forall_mem_append.2 ⟨known, List.forall_mem_singleton.2 round_known⟩) ?_
    rw [overlaid_append_singleton known overlaid round_known, accepted]

omit [Settings.LawfulValidation] in
/-- What is kept is known from the base and the rounds. -/
theorem current?_eq {base settings : Settings} {current? : Option Settings}
    (h : Kept (some base) rounds current?) (overlaid : base.overlaid rounds = .ok settings) :
    current? = some settings := by
  cases h with
  | read known accepted =>
    rw [accepted] at overlaid
    cases overlaid
    rfl

end Settings.Kept

namespace Session

variable {α : Type}

/-- What is kept after the default settings have been asked for. -/
theorem toOption_outcome (ambient : Ambient) : ambient.outcome.toOption =
    ambient.current?.or (Settings.validate ambient.environment []).toOption := by
  obtain ⟨environment, current?⟩ := ambient
  cases current? <;> rfl

/-- Where asking for the default settings fails, none are kept. -/
theorem current?_of_outcome_eq_error {ambient : Ambient} {errors : List Settings.Error}
    (h : ambient.outcome = .error errors) : ambient.current? = none := by
  obtain ⟨environment, current?⟩ := ambient
  cases current? with
  | none => rfl
  | some settings => cases h

/-- After the default settings have been asked for, they are kept, whatever a blind computation does
with them. -/
theorem current?_after_settle {session : Session} {rest : Settings → Action α}
    (h : ∀ settings, Blind (rest settings)) {ambient : Ambient} (hs : session.ambient = ambient) :
    (Walk.stateAfter ((settle ambient.outcome >>= rest) session)).ambient.current? =
      ambient.outcome.toOption := by
  cases ho : ambient.outcome with
  | ok settings =>
    rw [Walk.bind_of_ok (settle_ok settings session), (h settings).ambient_eq]
    rfl
  | error errors =>
    rw [Walk.bind_of_error (settle_error errors session)]
    show session.ambient.current? = none
    rw [hs, current?_of_outcome_eq_error ho]

namespace Step

/-- An operation other than a configuration has no round. -/
theorem round?_of_not_configure {step : Step}
    (hc : ∀ overrides, step.operation ≠ .configure overrides) : step.round? = none := by
  obtain ⟨before, operation⟩ := step
  cases operation with
  | configure overrides => exact absurd rfl (hc overrides)
  | _ => rfl

/-- After an operation that does not ask for the default settings, what was kept is kept. -/
theorem current?_after_of_not_asks {step : Step} (h : step.operation.asks step.before = false)
    (hr : step.operation.isReset = false) :
    step.after.ambient.current? = step.before.ambient.current? := by
  obtain ⟨before, operation⟩ := step
  cases hs : operation.setsVariable with
  | false =>
    have ha := Operation.alike_of_not_asks h hr hs before.ambient.current?
    exact congrArg Ambient.current? ha.states.ambient_eq
  | true =>
    cases operation with
    | setVariable name value? =>
      cases value? with
      | none => rfl
      | some value =>
        rw [after, result, Operation.perform, ← map_eq_pure_bind _ _, Walk.stateAfter_map,
          setVariable, stateAfter_onAmbient, Ambient.setVariable]
        cases Environment.fault? name value <;> rfl
    | _ => cases hs

variable [Settings.LawfulValidation]

/-- A configuration lays its overrides, if they are accepted, over what was kept before, or else
over what the environment gave. -/
theorem kept_after_configure {before : Session} {base? : Option Settings}
    {rounds : List Settings.Keywords} (h : Settings.Kept base? rounds before.ambient.current?)
    (overrides : Settings.Keywords) :
    let step : Step := ⟨before, .configure overrides⟩
    Settings.Kept (base?.or step.base?) (rounds ++ step.round?.toList)
      step.after.ambient.current? := by
  intro step
  rw [round?, after]
  cases hk : (Ambient.unknownNames overrides).isEmpty with
  | false =>
    have hr : step.result = .error (.unknownSettings (Ambient.unknownNames overrides)) before :=
      Walk.bind_of_error (configure_of_unknown hk before)
    have hb : step.base? = none := if_neg (Bool.not_eq_true _ ▸ hk)
    rw [hr, hb, Option.or_none, Option.toList_none, List.append_nil]
    exact h
  | true =>
    have hb : step.base? = (Settings.validate before.ambient.environment []).toOption := if_pos hk
    have ha := h.ask before.ambient.environment
    rw [← toOption_outcome] at ha
    have hc := configured_of_known hk before
    generalize hs : configure overrides before = result at hc
    rw [hb]
    cases hc with
    | unread outcome =>
      have hr : step.result = _ := Walk.bind_of_error hs
      rw [outcome] at ha
      rw [hr, Option.toList_none, List.append_nil]
      exact current?_of_outcome_eq_error outcome ▸ ha
    | refused outcome validated =>
      have hr : step.result = _ := Walk.bind_of_error hs
      rw [outcome] at ha
      rw [hr, Option.toList_none, List.append_nil]
      exact ha
    | accepted outcome validated =>
      have hr : step.result = _ := Walk.bind_of_ok hs
      rw [outcome] at ha
      rw [Settings.validate_onto_dump_eq_overlaid] at validated
      rw [hr]
      exact ha.replace (Ambient.isEmpty_unknownNames_iff.1 hk) validated

/-- After a run of a fold that asks for the default settings, what it was told is kept. -/
theorem current?_after_runStored {before : Session} {name : String} {blueprint : Blueprint}
    (h : (Operation.runStored name blueprint).asks before = true) :
    (Step.mk before (.runStored name blueprint)).after.ambient.current? =
      before.ambient.outcome.toOption := by
  rw [after, result, Operation.perform_eq_performWith_settle, Operation.performWith, Walk.get_bind]
  rw [Operation.asks, Bool.and_eq_true] at h
  obtain ⟨hstored, hplant⟩ := h
  cases hl : before.folds.lookup name with
  | none =>
    rw [hl] at hstored
    cases hstored
  | some stored =>
    rw [hl] at hstored
    have hnone : stored.settings? = none := Option.isNone_iff_eq_none.1 hstored
    dsimp only
    refine current?_after_blind (blind_plant blueprint) hplant fun id between ha => ?_
    rw [Walk.modify_bind, Walk.stateAfter_map, ambient_keepingTally, hnone]
    exact current?_after_settle (fun settings => blind_runKind stored.kind settings id) ha

/-- After a comparison that asks for the default settings, what it was told is kept. -/
theorem current?_after_equal {before : Session} {left right : Blueprint}
    (h : succeeds (plantBoth left right) before = true) :
    (Step.mk before (.equal left right none)).after.ambient.current? =
      before.ambient.outcome.toOption := by
  have hb : (Walk.stateAfter ((do
      let trees ← plantBoth left right
      let settings ← settle before.ambient.outcome
      Answer.truth <$> equalNodes (some settings) trees.1 trees.2) before)).ambient.current? =
        before.ambient.outcome.toOption :=
    current?_after_blind (blind_plantBoth left right) h fun trees between ha =>
      current?_after_settle (fun settings => (blind_equalNodes settings trees.1 trees.2).map _) ha
  rw [after, result, Operation.perform_eq_performWith_settle, Operation.performWith]
  simpa only [plantBoth, bind_assoc, pure_bind] using hb

/-- After an operation that asks for the default settings without replacing them, what it was told
is kept. -/
theorem current?_after_of_asks {step : Step} (h : step.operation.asks step.before = true)
    (hc : ∀ overrides, step.operation ≠ .configure overrides) :
    step.after.ambient.current? = step.before.ambient.outcome.toOption := by
  obtain ⟨before, operation⟩ := step
  dsimp only at h ⊢
  cases operation with
  | setVariable name value? => cases h
  | resetSettings => cases h
  | bindName name blueprint => cases h
  | storeFold name kind keywords? => cases h
  | configure overrides => exact absurd rfl (hc overrides)
  | getSettings =>
    rw [after, result, Operation.perform_eq_performWith_settle, Operation.performWith]
    cases ho : before.ambient.outcome with
    | error errors => exact current?_of_outcome_eq_error ho
    | ok settings => rfl
  | fold blueprint kind keywords? =>
    cases keywords? with
    | some keywords => cases h
    | none =>
      rw [after, result, Operation.perform_eq_performWith_settle, Operation.performWith]
      refine current?_after_blind (blind_plant blueprint) h fun id between ha => ?_
      rw [Walk.modify_bind]
      exact current?_after_settle (fun settings => (blind_runKind kind settings id).map _) ha
  | runStored name blueprint => exact current?_after_runStored h
  | equal left right keywords? =>
    cases keywords? with
    | some keywords => cases h
    | none => exact current?_after_equal h

/-- One step lays its round, if it has one, over what was kept before, or else over what the
environment gave. -/
theorem kept_after (step : Step) (hr : step.operation.isReset = false) {base? : Option Settings}
    {rounds : List Settings.Keywords}
    (h : Settings.Kept base? rounds step.before.ambient.current?) :
    Settings.Kept (base?.or step.base?) (rounds ++ step.round?.toList)
      step.after.ambient.current? := by
  by_cases hc : ∃ overrides, step.operation = .configure overrides
  · obtain ⟨before, operation⟩ := step
    obtain ⟨overrides, rfl⟩ := hc
    exact kept_after_configure h overrides
  have hc' (overrides : Settings.Keywords) (he : step.operation = .configure overrides) : False :=
    hc ⟨overrides, he⟩
  rw [round?_of_not_configure hc', Option.toList_none, List.append_nil]
  cases ha : step.operation.asks step.before with
  | true =>
    rw [current?_after_of_asks ha hc', toOption_outcome, Step.base?, if_pos ha]
    exact h.ask step.before.ambient.environment
  | false =>
    rw [current?_after_of_not_asks ha hr, Step.base?, if_neg (Bool.not_eq_true _ ▸ ha),
      Option.or_none]
    exact h

end Step

variable [Settings.LawfulValidation]

/-- What is kept after a history. -/
theorem kept_finish (operations : List Operation) (session : Session)
    (h : session.ambient.current? = none) :
    Settings.Kept (base? (sinceReset (history operations session)))
      (rounds (sinceReset (history operations session)))
      (finish operations session).ambient.current? := by
  induction operations using List.reverseRecOn with
  | nil =>
    rw [finish, List.foldl_nil, h]
    exact .unread
  | append_singleton operations operation ih =>
    rw [history_append_singleton, finish_append_singleton]
    cases hr : operation.isReset with
    | true =>
      rw [sinceReset_append_of_isReset _ hr]
      cases operation with
      | resetSettings => exact .unread
      | _ => cases hr
    | false =>
      rw [sinceReset_append_of_not_isReset _ hr, base?_append_singleton, rounds_append_singleton]
      exact Step.kept_after ⟨_, operation⟩ hr ih

/-- What is kept is what is in effect; where nothing is kept, the environment decides. -/
theorem outcome_eq_inEffect {steps : List Step} {session : Session}
    (h : Settings.Kept (base? steps) (rounds steps) session.ambient.current?) :
    session.ambient.outcome = inEffect steps session.ambient.environment := by
  obtain ⟨⟨environment, current?⟩⟩ := session
  dsimp only at h ⊢
  rw [inEffect]
  generalize base? steps = base?, rounds steps = rounds at h
  cases h with
  | unread =>
    show Settings.validate environment [] = Settings.validate environment [] >>= _
    cases hv : Settings.validate environment [] with
    | ok settings => exact (Settings.overlaid_nil_of_validate Settings.Keywords.known_nil hv).symm
    | error errors => rfl
  | read known overlaid => exact overlaid.symm

/-! ## Changes of the environment -/

/-- What an operation other than a reset makes of default settings that are kept. -/
def Operation.replace (settings : Settings) : Operation → Settings
  | configure overrides =>
    if (Ambient.unknownNames overrides).isEmpty then
      (settings.overlaid [overrides]).toOption.getD settings
    else settings
  | _ => settings

/-- Once default settings are kept, they change as the operation says, whatever the environment
is. -/
theorem Step.current?_after_of_some (step : Step) (hr : step.operation.isReset = false)
    {settings : Settings} (h : step.before.ambient.current? = some settings) :
    step.after.ambient.current? = some (step.operation.replace settings) := by
  obtain ⟨before, operation⟩ := step
  have ho : before.ambient.outcome = .ok settings := by
    rw [Ambient.outcome, show before.ambient.current? = some settings from h]
  by_cases hc : ∃ overrides, operation = .configure overrides
  · obtain ⟨overrides, rfl⟩ := hc
    rw [after, result, Operation.perform, Operation.replace]
    cases hk : (Ambient.unknownNames overrides).isEmpty with
    | false =>
      rw [Walk.bind_of_error (configure_of_unknown hk before)]
      exact h
    | true =>
      have hc := configured_of_known hk before
      generalize hs : configure overrides before = result at hc
      cases hc with
      | unread outcome => cases ho.symm.trans outcome
      | refused outcome validated =>
        cases ho.symm.trans outcome
        rw [Settings.validate_onto_dump_eq_overlaid] at validated
        rw [Walk.bind_of_error hs, if_pos rfl, validated]
        rfl
      | accepted outcome validated =>
        cases ho.symm.trans outcome
        rw [Settings.validate_onto_dump_eq_overlaid] at validated
        rw [Walk.bind_of_ok hs, if_pos rfl, validated]
        rfl
  have hc' (overrides : Settings.Keywords) (he : operation = .configure overrides) : False :=
    hc ⟨overrides, he⟩
  have hreplace : operation.replace settings = settings := by
    cases operation with
    | configure overrides => exact (hc' overrides rfl).elim
    | _ => rfl
  rw [hreplace]
  cases ha : operation.asks before with
  | true => rw [current?_after_of_asks ha hc', ho]; rfl
  | false => rw [current?_after_of_not_asks ha hr, h]

/-- Default settings that are kept change with the configurations only. -/
theorem current?_finish_of_some {operations : List Operation}
    (hr : ∀ operation ∈ operations, operation.isReset = false) {session : Session}
    {settings : Settings} (h : session.ambient.current? = some settings) :
    (finish operations session).ambient.current? =
      some (operations.foldl (fun settings operation => operation.replace settings) settings) := by
  induction operations generalizing session settings with
  | nil => exact h
  | cons operation operations ih =>
    obtain ⟨hfirst, hrest⟩ := List.forall_mem_cons.1 hr
    exact ih hrest (Step.current?_after_of_some ⟨session, operation⟩ hfirst h)

/-- Changes of the environment do not matter while default settings are kept. -/
theorem current?_finish_filter {operations : List Operation}
    (hr : ∀ operation ∈ operations, operation.isReset = false) {session : Session}
    {settings : Settings} (h : session.ambient.current? = some settings) :
    (finish (operations.filter fun operation => !operation.setsVariable) session).ambient.current? =
      (finish operations session).ambient.current? := by
  rw [current?_finish_of_some hr h, current?_finish_of_some (fun operation hm =>
    hr operation (List.mem_filter.1 hm).1) h, List.foldl_filter]
  -- a change of the environment makes nothing of the settings, so it may as well be left out
  congr 2
  funext settings operation
  cases operation <;> rfl

/-! ## The default settings over a whole run -/

/-- What the steps since the last reset say about a session. -/
structure DefaultInEffect (steps : List Step) (now : Session) : Prop where
  /-- What is kept is the base with the rounds laid over it, or nothing while there is no base. -/
  kept : Settings.Kept (base? steps) (rounds steps) now.ambient.current?
  /-- Every operation that asks for the default settings is told those in effect, or fails where
  the environment gives none. -/
  perform (next : Operation) :
    next.perform now = next.performWith (settle (inEffect steps now.ambient.environment)) now
  /-- So is a fold by any other algebra. -/
  fold {α : Type} (algebra : Algebra Failure Session α) (id : NodeId) :
    foldWith none algebra id now = (settle (inEffect steps now.ambient.environment) >>=
      fun settings => foldWith (some settings) algebra id) now
  /-- Names that are no fields are refused before the default settings are asked for, and nothing
  changes. -/
  unknown {overrides : Settings.Keywords}
    (h : (Ambient.unknownNames overrides).isEmpty = false) :
    configure overrides now = .error (.unknownSettings (Ambient.unknownNames overrides)) now
  /-- An operation that does not ask for the default settings, such as a run under settings of its
  own, neither depends on them nor changes them. -/
  unasked {next : Operation} (h : next.asks now = false) (hr : next.isReset = false)
    (hs : next.setsVariable = false) (other : Option Settings) :
    Walk.ResultAlike (Apart now.ambient { now.ambient with current? := other }) Eq
      (next.perform now) (next.perform { now with ambient.current? := other })
  /-- Once settings are kept, changes of the environment do not matter until the next reset. -/
  environment {later : List Operation} (hr : ∀ operation ∈ later, operation.isReset = false)
    {settings : Settings} (h : now.ambient.current? = some settings) :
    (finish (later.filter fun operation => !operation.setsVariable) now).ambient.current? =
      (finish later now).ambient.current?

/-- After any operations of a new process, the default settings in effect are the base since the
last reset with the rounds of the successful configurations laid over it. -/
theorem default_in_effect (environment : Environment) (operations : List Operation) :
    let start : Session := { ambient := { environment } }
    DefaultInEffect (sinceReset (history operations start)) (finish operations start) := by
  intro start
  have hk := kept_finish operations start rfl
  exact {
    kept := hk
    perform := fun next => by
      rw [Operation.perform_eq_performWith_settle, outcome_eq_inEffect hk]
    fold := fun algebra id => by
      rw [← outcome_eq_inEffect hk]
      exact Walk.bind_congr_left (guards_none _) _
    unknown := fun h => configure_of_unknown h _
    unasked := Operation.alike_of_not_asks
    environment := fun hr _ h => current?_finish_filter hr h }

end Session

end Validated

namespace Session

/-- A new process whose environment sets the depth bound to seven. -/
def boundedBySeven : Session :=
  { ambient.environment := { entries := [("FIXDSL_MAX_DEPTH", "7")] } }

theorem validate_boundedBySeven :
    Settings.reading.validate boundedBySeven.ambient.environment [] = .ok { maxDepth := 7 } := by
  have hdepth :
      Settings.environmentText? boundedBySeven.ambient.environment .maxDepth = some "7" := by
    simp only [Settings.environmentText?, Settings.toLower_eq_ofList]
    decide
  have hdetect :
      Settings.environmentText? boundedBySeven.ambient.environment .detectCycles = none := by
    simp only [Settings.environmentText?, Settings.toLower_eq_ofList]
    decide
  show Settings.readOffered (Settings.offered boundedBySeven.ambient.environment []) = _
  rw [Settings.readOffered, Settings.offered, Settings.offered, hdepth, hdetect]
  rfl

/-- The bound that has been asked for stays the default when its variable is removed. -/
theorem default_in_effect_boundedBySeven :
    let _ := Settings.reading
    (finish [.getSettings, .setVariable "FIXDSL_MAX_DEPTH" none] boundedBySeven).ambient.current? =
      some { maxDepth := 7 } := by
  intro _
  have lawful := Settings.lawful_reading
  have hk := (default_in_effect boundedBySeven.ambient.environment
    [.getSettings, .setVariable "FIXDSL_MAX_DEPTH" none]).kept
  -- the first operation gives the base, and the second one leaves it
  have hbase : (Step.mk boundedBySeven .getSettings).base? = some { maxDepth := 7 } :=
    congrArg Except.toOption validate_boundedBySeven
  change Settings.Kept (base? [⟨boundedBySeven, .getSettings⟩, _]) [] _ at hk
  rw [base?, List.findSome?_cons, hbase] at hk
  exact hk.current?_eq
    (Settings.overlaid_nil_of_validate Settings.Keywords.known_nil validate_boundedBySeven)

end Session

end LayeredTree
