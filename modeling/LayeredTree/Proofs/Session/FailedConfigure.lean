import LayeredTree.Proofs.Session.Defaults

/-!
# Configurations that fail

A configuration fails because of an unknown name, because there are no default settings to begin
with, or because its overrides are refused. Before the overrides are checked the default settings
are asked for, and what was told is kept. So a configuration that fails leaves one trace at most:
where the default settings had not been read before, it is as if they had been asked for.
-/

namespace LayeredTree.Session

section Validated

variable [Settings.Validation]

/-- Whether a configuration reads the default settings, which were not read before, and keeps
them. -/
def readsBase (overrides : Settings.Keywords) (session : Session) : Bool :=
  (Ambient.unknownNames overrides).isEmpty && session.ambient.current?.isNone &&
    (Settings.validate session.ambient.environment []).isOk

/-- Asking for the default settings settles them. -/
theorem perform_getSettings (session : Session) :
    Operation.getSettings.perform session =
      (settle session.ambient.outcome >>= fun settings => pure (.settings settings true))
        session := by
  rw [Operation.perform, Walk.bind_congr_left (defaultSettings_eq session), bind_assoc]
  rfl

/-- What asking for the default settings answers. -/
theorem outcome_getSettings (session : Session) :
    Walk.outcome (Operation.getSettings.perform session) =
      match session.ambient.outcome with
      | .ok settings => .ok (.settings settings true)
      | .error errors => .error (.invalidSettings errors) := by
  rw [perform_getSettings]
  cases session.ambient.outcome <;> rfl

/-- Asking for the default settings keeps what it answers. -/
theorem after_getSettings {session : Session} {settings : Settings}
    (h : session.ambient.outcome = .ok settings) : (Step.mk session .getSettings).after =
      { session with ambient.current? := some settings } := by
  rw [Step.after, Step.result, perform_getSettings, h]
  rfl

/-- The first reading of the default settings is one that the environment allows. -/
theorem readsBase_eq {overrides : Settings.Keywords} {session : Session}
    (hk : (Ambient.unknownNames overrides).isEmpty = true) :
    readsBase overrides session =
      (session.ambient.current?.isNone && session.ambient.outcome.isOk) := by
  obtain ⟨⟨environment, current?⟩⟩ := session
  rw [readsBase, hk]
  cases current? <;> rfl

/-- A configuration that fails leaves the session as it was, or as it would be if the default
settings had been asked for. -/
theorem after_of_configure_eq_error {overrides : Settings.Keywords} {session after : Session}
    {cause : Failure} (h : configure overrides session = .error cause after) :
    after =
      if readsBase overrides session then (Step.mk session .getSettings).after else session := by
  cases hk : (Ambient.unknownNames overrides).isEmpty with
  | false =>
    rw [configure_of_unknown hk] at h
    cases h
    rw [readsBase, hk]
    rfl
  | true =>
    rw [readsBase_eq hk]
    have hc := configured_of_known hk session
    rw [h] at hc
    cases hc with
    | unread outcome =>
      rw [outcome, current?_of_outcome_eq_error outcome]
      rfl
    | refused outcome validated =>
      rw [after_getSettings outcome, outcome]
      obtain ⟨⟨environment, current?⟩⟩ := session
      cases current? with
      | none => rfl
      | some settings =>
        cases outcome
        rfl

/-- After a configuration that fails all goes on as if it had not been tried or, where it had known
names and was the first to read the defaults, as if these had been asked for instead. -/
theorem trace_of_failed_configure {overrides : Settings.Keywords} {session after : Session}
    {cause : Failure} (h : configure overrides session = .error cause after)
    (later : List Operation) :
    let instead :=
      if readsBase overrides session then (Step.mk session .getSettings).after else session
    outcomes later after = outcomes later instead ∧ finish later after = finish later instead := by
  rw [after_of_configure_eq_error h]
  exact ⟨rfl, rfl⟩

end Validated

/-! ## A depth of zero -/

/-- Overrides that are refused. -/
def depthZero : Settings.Keywords := [("max_depth", .int 0)]

theorem known_depthZero : depthZero.Known := List.forall_mem_singleton.2 ⟨.maxDepth, rfl⟩

/-- A depth of zero is refused, whatever it is laid over. -/
theorem validate_depthZero (environment : Environment) (base : Settings) :
    Settings.reading.validate environment (depthZero.onto base.dump) =
      .error [⟨.maxDepth, "greater_than"⟩] := by
  show Settings.readOffered (Settings.offered environment (depthZero.onto base.dump)) = _
  rw [funext (Settings.offered_onto known_depthZero base.known_dump environment)]
  simp only [Settings.offered_dump, Settings.keyword?_of_known known_depthZero]
  rfl

/-- The overrides are refused, and the bound of seven is kept. -/
theorem configure_depthZero :
    let _ := Settings.reading
    configure depthZero boundedBySeven = .error (.invalidSettings [⟨.maxDepth, "greater_than"⟩])
      { boundedBySeven with ambient.current? := some { maxDepth := 7 } } := by
  intro _
  have ho : boundedBySeven.ambient.outcome = .ok { maxDepth := 7 } :=
    (Ambient.outcome_of_none rfl).trans validate_boundedBySeven
  rw [configure_of_known (Ambient.isEmpty_unknownNames_iff.2 known_depthZero),
    Walk.bind_congr_left (guards_none _), ho, Walk.bind_of_ok (settle_ok ..),
    Walk.bind_congr_left (adopt_eq_settle _ _), validate_depthZero]
  rfl

/-- After a depth of zero has been refused, everything goes on as if the default settings had been
asked for. -/
theorem trace_of_configure_depthZero :
    let _ := Settings.reading
    ∃ cause after, configure depthZero boundedBySeven = .error cause after ∧
      outcomes [.setVariable "FIXDSL_MAX_DEPTH" none, .getSettings] after =
        (outcomes [.getSettings, .setVariable "FIXDSL_MAX_DEPTH" none, .getSettings]
          boundedBySeven).tail := by
  intro _
  have hb : readsBase depthZero boundedBySeven = true := by
    rw [readsBase, Ambient.isEmpty_unknownNames_iff.2 known_depthZero]
    rw [validate_boundedBySeven]
    rfl
  have ht := trace_of_failed_configure configure_depthZero
    [.setVariable "FIXDSL_MAX_DEPTH" none, .getSettings]
  rw [if_pos hb] at ht
  exact ⟨_, _, configure_depthZero, ht.1⟩

/-- A depth of zero that is refused makes a difference: when the variable is removed afterwards, the
default bound is still seven. -/
theorem outcomes_ne_after_configure_depthZero :
    let _ := Settings.reading
    ∃ cause after, configure depthZero boundedBySeven = .error cause after ∧
      outcomes [.setVariable "FIXDSL_MAX_DEPTH" none, .getSettings] after ≠
        outcomes [.setVariable "FIXDSL_MAX_DEPTH" none, .getSettings] boundedBySeven := by
  intro _
  refine ⟨_, _, configure_depthZero, fun he => ?_⟩
  simp only [outcomes, history, List.map_cons, List.map_nil, List.cons.injEq, and_true,
    Step.result, outcome_getSettings] at he
  obtain ⟨-, he⟩ := he
  -- seven after the refusal, and the bound of an empty environment without it
  injection he with hs
  injection hs with hs
  exact absurd (congrArg Settings.maxDepth hs) (by decide)

end LayeredTree.Session
