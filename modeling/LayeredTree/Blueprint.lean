import LayeredTree.Failure
import LayeredTree.Layer.Basic

/-!
# Blueprints

A blueprint describes how to make a tree. Evaluating it makes nodes, new ones each time. Some
parts are evaluated only when a node reveals its layer, and again each time it does: such nodes
can refuse, can contain themselves, and can go on for ever without repeating a node.
-/

namespace LayeredTree

/-- How to make a tree. -/
inductive Blueprint where
  /-- A node that always reveals one and the same layer. -/
  | node (layer : Layer Blueprint)
  /-- A node that makes the tree anew whenever it reveals its layer. -/
  | deferred (body : Blueprint)
  /-- As `deferred`, and the label is noted down first, each time. -/
  | traced (label : String) (body : Blueprint)
  /-- A node that refuses to reveal its layer. -/
  | refusing (signal : Signal) (text : String)
  /-- The body, in which a name stands for the node of another blueprint. -/
  | bound (name : String) (value body : Blueprint)
  /-- The node that a name stands for. -/
  | ref (name : String)
  /-- A deferred node whose name stands, in its body, for the node itself. -/
  | recursive (name : String) (body : Blueprint)
  /-- A deferred node whose name stands, in its body, for a new node of the same kind each time. -/
  | endless (name : String) (body : Blueprint)
  /-- The start, wrapped a number of times in the wrapper, in which the name stands for what has
  been made so far. -/
  | repeated (count : Nat) (name : String) (wrapper start : Blueprint)
  /-- A value of some other kind where a tree is expected. -/
  | foreign (kind : String)

namespace Blueprint

/-- A reference to a name. -/
def var (name : String) : Blueprint := node (.var name)

/-- A literal token. -/
def literal (value : String) : Blueprint := node (.literal value)

/-- An application. -/
def apply (callee : Blueprint) (arguments : List Blueprint) : Blueprint :=
  node (.apply callee arguments)

/-- An abstraction. -/
def abstract (parameters : List Blueprint) (body : Blueprint) : Blueprint :=
  node (.abstract parameters body)

/-- A value bound to a name. -/
def assign (name : String) (value : Blueprint) : Blueprint := node (.assign name value)

/-- A labelled sequence of members. -/
def group (label : Blueprint) (members : List Blueprint) : Blueprint :=
  node (.group label members)

end Blueprint

/-- The identity of a node in a session. -/
structure NodeId where
  /-- The place of the node in the order in which nodes were made. -/
  index : Nat
  deriving DecidableEq, Hashable, Repr

/-- What a name stands for. -/
inductive Binding where
  /-- One node. -/
  | node (id : NodeId)
  /-- A new endless node each time, from its body and the scope around it. -/
  | endless (body : Blueprint) (scope : List (String × Binding))

/-- The names in force, the innermost first. -/
abbrev Scope := List (String × Binding)

/-- How a node reveals its layer. -/
inductive Origin where
  /-- It holds the layer. -/
  | captured (layer : Layer NodeId)
  /-- It makes a tree in a scope and reveals the layer of its root. -/
  | deferred (body : Blueprint) (scope : Scope)
  /-- As `deferred`, after a label has been noted down. -/
  | traced (label : String) (body : Blueprint) (scope : Scope)
  /-- It refuses. -/
  | refusing (signal : Signal) (text : String)
  /-- As `deferred`, with a name for the node itself. -/
  | recursive (name : String) (body : Blueprint) (scope : Scope)
  /-- As `deferred`, with a name for new nodes of the same kind. -/
  | endless (name : String) (body : Blueprint) (scope : Scope)

end LayeredTree
