import LayeredTree.Settings.Validation
import LayeredTree.Text.Numeral

/-!
# A validation of settings

The validation that the command uses. A raw value is a number, a text or other plain data, and each
field is read on its own. A keyword for a field, in any case, comes before the variable whose name
is the stem followed by the field's name, in any case as well. The faults of all fields are
reported, in field order.
-/

namespace LayeredTree.Settings

/-- What can be wrong with the raw value of a field. -/
inductive Fault where
  /-- A text that does not read as an integer. -/
  | notAnInteger
  /-- A text with too many digits, or a number with a point beyond 64 bits. -/
  | oversized
  /-- A value that is neither a number nor a text. -/
  | integerExpected
  /-- A number that is not finite. -/
  | notFinite
  /-- A number with a fraction. -/
  | fractional
  /-- An integer below one. -/
  | notPositive
  /-- A text or number that does not stand for a truth value. -/
  | notATruthValue
  /-- A value that can never stand for a truth value. -/
  | truthValueExpected
  deriving DecidableEq, Repr

/-- The code of a fault in error reports. -/
def Fault.code : Fault → String
  | .notAnInteger => "int_parsing"
  | .oversized => "int_parsing_size"
  | .integerExpected => "int_type"
  | .notFinite => "finite_number"
  | .fractional => "int_from_float"
  | .notPositive => "greater_than"
  | .notATruthValue => "bool_parsing"
  | .truthValueExpected => "bool_type"

/-- The first positive integer that needs more than 64 bits with its sign. -/
def wordBound : Int := 9223372036854775808

/-- The integer that a number with a point stands for. Its absolute value is below the word
bound. -/
def readFloat (number : Binary64) : Except Fault Int :=
  match number.units? with
  | none => .error .notFinite
  | some _ =>
    match number.integer? with
    | none => .error .fractional
    | some value => if value.natAbs < wordBound then .ok value else .error .oversized

/-- The integer that a raw value stands for. -/
def readInteger : Value → Except Fault Int
  | .int value => .ok value
  | .bool value => .ok (if value then 1 else 0)
  | .float number => readFloat number
  | .string text =>
    match Text.integer text with
    | .ok value => .ok value
    | .error .malformed => .error .notAnInteger
    | .error .oversized => .error .oversized
  | _ => .error .integerExpected

/-- Read the depth bound: a positive integer. -/
def readMaxDepth (raw : Value) : Except Fault { depth : Nat // 0 < depth } := do
  let value ← readInteger raw
  if h : 0 < value.toNat then return ⟨value.toNat, h⟩ else throw .notPositive

/-- The texts that stand for true, in lower case. -/
def trueTexts : List String := ["1", "true", "t", "yes", "y", "on"]

/-- The texts that stand for false, in lower case. -/
def falseTexts : List String := ["0", "false", "f", "no", "n", "off"]

/-- The truth value that an integer stands for. -/
def readBit (value : Int) : Except Fault Bool :=
  if value = 1 then .ok true else if value = 0 then .ok false else .error .notATruthValue

/-- Read the switch for cycle detection: a truth value, one or zero, or a text that names one
without regard to case. A number beyond 64 bits can never stand for a truth value. -/
def readDetectCycles : Value → Except Fault Bool
  | .bool value => .ok value
  | .int value =>
    if -wordBound ≤ value && value < wordBound then readBit value else .error .truthValueExpected
  | .float number =>
    match readFloat number with
    | .ok value => readBit value
    | .error _ => .error .truthValueExpected
  | .string text =>
    if trueTexts.contains text.toLower then .ok true
    else if falseTexts.contains text.toLower then .ok false
    else .error .notATruthValue
  | _ => .error .truthValueExpected

/-- Read what is offered for a field; a field without a value keeps its default. -/
def readOr {α : Type} (default : α) (read : Value → Except Fault α) :
    Option Value → Except Fault α
  | some raw => read raw
  | none => .ok default

/-- Settings from what was read for their fields, or the faults of all fields. -/
def assemble : Except Fault { depth : Nat // 0 < depth } → Except Fault Bool →
    Except (List Error) Settings
  | .ok depth, .ok detect => .ok ⟨depth.1, detect, depth.2⟩
  | .error fault, .ok _ => .error [⟨.maxDepth, fault.code⟩]
  | .ok _, .error fault => .error [⟨.detectCycles, fault.code⟩]
  | .error first, .error second => .error [⟨.maxDepth, first.code⟩, ⟨.detectCycles, second.code⟩]

/-- Read settings from the raw values offered for the fields. -/
def readOffered (offered : Field → Option Value) : Except (List Error) Settings :=
  let default : Settings := {}
  assemble
    (readOr ⟨default.maxDepth, default.maxDepth_pos⟩ readMaxDepth (offered .maxDepth))
    (readOr default.detectCycles readDetectCycles (offered .detectCycles))

/-- What the names of the program's variables start with. -/
def stem : String := "FIXDSL_"

/-- The text that the environment offers for a field: of the variables whose names differ at most
in case from the stem and the field's name, the last one in the order. -/
def environmentText? (environment : Environment) (field : Field) : Option String :=
  let name := (stem ++ field.name).toLower
  (environment.entries.reverse.find? (·.1.toLower == name)).map (·.2)

/-- The first keyword for a field, whose name may differ in case. -/
def keyword? (keywords : Keywords) (field : Field) : Option Value :=
  (keywords.find? (·.1.toLower == field.name)).map (·.2)

/-- What is offered for a field: a keyword first, then the environment. -/
def offered (environment : Environment) (keywords : Keywords) (field : Field) : Option Value :=
  (keyword? keywords field).or ((environmentText? environment field).map .string)

/-- Settings are read from keywords and, where there is none, from variables. -/
@[reducible]
def reading : Validation where
  validate environment keywords := readOffered (offered environment keywords)

end LayeredTree.Settings
