import LayeredTree.Forest
import LayeredTree.Layer.Calls
import LayeredTree.Settings.Ambient
import LayeredTree.Text.Quoted
import LayeredTree.Value

/-!
# Failures

The causes for which an operation of a session can fail, each with its message. The two guard
failures can also be reported as records with details, and such records can be made directly.
-/

namespace LayeredTree

/-- The ways in which a node can refuse to reveal its layer. -/
inductive Signal where
  | value
  | runtime
  /-- The signal that there are no more items. -/
  | exhausted
  deriving DecidableEq, Repr

/-- Why an operation failed. -/
inductive Failure where
  /-- A node was met below itself, under a path of this many nodes. -/
  | cyclic (depth : Nat)
  /-- A path has more nodes than this bound allows. -/
  | tooDeep (limit : Nat)
  /-- A layer did not get one result for each payload. -/
  | starved
  /-- Raw settings were not accepted. -/
  | invalidSettings (errors : List Settings.Error)
  /-- Names that are no settings. -/
  | unknownSettings (names : List String)
  /-- An environment variable cannot be set. -/
  | variableRefused (fault : Environment.Fault)
  /-- A value of some other kind stands where a tree is expected. -/
  | notATree (kind : String)
  /-- A value of some other kind stands where a document is expected. -/
  | notADocument (kind : String)
  /-- A value stands where a layer is expected and is of none of the six variants. -/
  | notALayer
  /-- No further variant of layers can be declared. -/
  | closedFamily (name : String)
  /-- The name of a declaration has a null character in it. -/
  | nullInName
  /-- A node refused to reveal its layer. -/
  | refused (signal : Signal) (text : String)
  /-- A sequence was cut short by the signal that there are no more items. -/
  | cutShort
  /-- An algebra gave up at this call. -/
  | algebraStopped (call : Int)
  /-- A transform gave up at this call. -/
  | transformStopped (call : Int)
  /-- An operator was used on payloads of these kinds. -/
  | operandKinds (operator left right : String)
  /-- Payloads of these kinds have no order. -/
  | unordered (left right : String)
  /-- A text was extended by a payload of this kind. -/
  | textExtension (kind : String)
  /-- A list of texts has an item of this kind. -/
  | textItem (position : Nat) (kind : String)
  /-- A payload of this kind is no list. -/
  | notIterable (kind : String)
  /-- A payload of this kind has no first line. -/
  | notIndexable (kind : String)
  /-- A payload of this kind cannot be split into lines. -/
  | notSplittable (kind : String)
  /-- No reading of a layer was asked for. -/
  | noReading
  /-- A name has no binding. -/
  | unbound (name : String)
  /-- Revealing a layer led from node to node without an end. -/
  | endless
  deriving Repr

namespace Failure

/-- What is said of an environment variable that cannot be set. -/
def variableMessage : Environment.Fault → String
  | .nullCharacter => "embedded null byte"
  | .equalsSign => "illegal environment variable name"
  | .emptyName => "[Errno 22] Invalid argument"

/-- What is said of a cycle. -/
def cyclicMessage : String := "Tree is not well-founded: a node is its own descendant"

/-- The message of a failure. -/
def message : Failure → String
  | cyclic _ => cyclicMessage
  | tooDeep limit => s!"Tree depth exceeds max_depth={limit}"
  | starved => "A layer did not get one result for each payload"
  | invalidSettings _ => "Settings were not accepted"
  | unknownSettings names => "Unknown fold settings: " ++ ", ".intercalate names
  | variableRefused fault => variableMessage fault
  | notATree kind =>
    s!"Fix expects a Syntax layer or a zero-argument function, got {kind}"
  | notADocument kind => s!"Unknown document node: {kind}"
  | notALayer => "Expected code to be unreachable"
  | closedFamily name => s!"Cannot define {name}: the Syntax variant family is closed"
  | nullInName => "type name must not contain null characters"
  | refused _ text => text
  | cutShort => "generator raised StopIteration"
  | algebraStopped call => s!"fail at {call}"
  | transformStopped call => s!"boom {call}"
  | operandKinds operator left right =>
    s!"unsupported operand type(s) for {operator}: '{left}' and '{right}'"
  | unordered left right => s!"'>' not supported between instances of '{left}' and '{right}'"
  | textExtension kind => s!"can only concatenate str (not \"{kind}\") to str"
  | textItem position kind =>
    s!"sequence item {position}: expected str instance, {kind} found"
  | notIterable kind => s!"'{kind}' object is not iterable"
  | notIndexable kind => s!"'{kind}' object is not subscriptable"
  | notSplittable kind => s!"'{kind}' object has no attribute 'split'"
  | noReading => "list index out of range"
  | unbound name => Text.Quoted.encode name
  | endless => "maximum recursion depth exceeded"

/-- The failure that a settings failure amounts to. -/
def ofSettings : Settings.Failure → Failure
  | .invalid errors => .invalidSettings errors
  | .unknown names => .unknownSettings names
  | .variable fault => .variableRefused fault

/-- The failure that an interrupted walk amounts to. -/
def ofInterruption : Interruption Failure → Failure
  | .cyclic depth => .cyclic depth
  | .tooDeep limit => .tooDeep limit
  | .raised cause => cause
  | .starved => .starved

instance : EndSignal Failure where
  isSignal
    | refused .exhausted _ => true
    | _ => false
  cutShort := cutShort

end Failure

/-- The classes of reported errors. -/
inductive ErrorClass where
  | general
  | cyclicTree
  | depthLimit
  deriving DecidableEq, Repr

/-- What an error of a class says unless it is given a message. -/
def ErrorClass.defaultMessage : ErrorClass → String
  | general => "fixdsl error"
  | cyclicTree => Failure.cyclicMessage
  | depthLimit => "Tree depth exceeds the configured maximum"

/-- An error with a message and details. -/
structure ErrorRecord where
  /-- The class of the error. -/
  errorClass : ErrorClass
  /-- What happened. -/
  message : String
  /-- Named values that say more. -/
  details : List (String × Value)
  deriving Repr

/-- An error of a class. A missing or empty message is replaced by the default of the class. -/
def ErrorRecord.make (errorClass : ErrorClass) (message? : Option String)
    (details? : Option (List (String × Value))) : ErrorRecord where
  errorClass := errorClass
  message := match message? with
    | some message => if message.isEmpty then errorClass.defaultMessage else message
    | none => errorClass.defaultMessage
  details := details?.getD []

/-- The record of a guard failure. -/
def Failure.record? : Failure → Option ErrorRecord
  | cyclic depth => some (.make .cyclicTree none (some [("depth", .int depth)]))
  | tooDeep limit =>
    some (.make .depthLimit (Failure.tooDeep limit).message (some [("max_depth", .int limit)]))
  | _ => none

end LayeredTree
