import LayeredTree.Proofs.Settings.Overlay
import LayeredTree.Proofs.Walk

/-!
# What the operations on the default settings do

Each operation is brought down to one elementary step: settings that were read become the default,
and settings that could not be read change nothing. Asking for the default settles what is kept or,
where nothing is kept, what the environment gives; configuring asks and then settles the default
with its overrides laid over it.
-/

namespace LayeredTree.Ambient

open Settings

/-- Keep settings as the default, unless they could not be read. -/
def settle (outcome : Except (List Error) Settings) : Action Settings := fun ambient =>
  match outcome with
  | .ok settings => .ok settings { ambient with current? := some settings }
  | .error errors => .error (.invalid errors) ambient

variable [Validation]

/-- The default settings that are kept, or else those that the environment gives. -/
def outcome (ambient : Ambient) : Except (List Error) Settings :=
  match ambient.current? with
  | some settings => .ok settings
  | none => validate ambient.environment []

/-- Where no default settings are kept, the environment decides. -/
theorem outcome_of_none {ambient : Ambient} (h : ambient.current? = none) :
    ambient.outcome = validate ambient.environment [] := by
  rw [outcome, h]

/-- Reading settings leaves the default alone. -/
theorem read_eq (keywords : Keywords) (ambient : Ambient) :
    read keywords ambient =
      match validate ambient.environment keywords with
      | .ok settings => .ok settings ambient
      | .error errors => .error (.invalid errors) ambient := by
  show (match validate ambient.environment keywords with
    | .ok settings => (pure settings : Action Settings)
    | .error errors => throw (Settings.Failure.invalid errors)) ambient = _
  cases validate ambient.environment keywords <;> rfl

/-- Reading settings and keeping them settles what was read. -/
theorem adopt_eq_settle (keywords : Keywords) (ambient : Ambient) :
    adopt keywords ambient = settle (validate ambient.environment keywords) ambient := by
  have hr := read_eq keywords ambient
  rw [adopt]
  cases h : validate ambient.environment keywords with
  | ok settings =>
    rw [h] at hr
    rw [Walk.bind_of_ok hr]
    rfl
  | error errors =>
    rw [h] at hr
    rw [Walk.bind_of_error hr]
    rfl

/-- Asking for the default settings settles what is kept, or else what the environment gives. -/
theorem current_eq_settle (ambient : Ambient) :
    current ambient = settle ambient.outcome ambient := by
  obtain ⟨environment, current?⟩ := ambient
  cases current? with
  | some settings => rfl
  | none => exact adopt_eq_settle [] _

/-- Names that are no fields are refused before anything else happens. -/
theorem configure_of_unknown {overrides : Keywords}
    (h : (unknownNames overrides).isEmpty = false) (ambient : Ambient) :
    configure overrides ambient = .error (.unknown (unknownNames overrides)) ambient := by
  simp only [configure, h]
  rfl

/-- Configuring asks for the default settings and adopts them with the overrides laid over. -/
theorem configure_of_known {overrides : Keywords}
    (h : (unknownNames overrides).isEmpty = true) :
    configure overrides = current >>= fun base => adopt (overrides.onto base.dump) := by
  simp only [configure, h, if_true]

end LayeredTree.Ambient
