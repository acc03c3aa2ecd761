import LayeredTree.Layer.Schema

/-!
# Algebras

Algebras that write a tree as text, measure it, find its free names and hash it. The debug rendering
names every variant and puts brackets around everything; the plain rendering reads like source text
and puts each member of a group on a line of its own. A name is free when no abstraction above binds
it. A hash combines the tag of a layer with the hashes of its fields; how strings and tuples are
hashed is left to a `Hasher`, of which `Hasher.mixing` is one on words.
-/

universe u

namespace LayeredTree

namespace Algebra

/-! ## Rendering as text -/

/-- The parts of a list with commas between them. -/
def commaList (parts : List String) : String := ", ".intercalate parts

/-- Tagged, fully bracketed text. -/
def debug : Layer String → String
  | .apply callee arguments => "Apply(" ++ callee ++ ", [" ++ commaList arguments ++ "])"
  | .abstract parameters body => "Abstract([" ++ commaList parameters ++ "], " ++ body ++ ")"
  | .assign name value => "Assign(" ++ name ++ ", " ++ value ++ ")"
  | .var name => "Variable(" ++ name ++ ")"
  | .literal value => "Literal(" ++ value ++ ")"
  | .group label members => "Group(" ++ label ++ ", [" ++ commaList members ++ "])"

/-- Text that reads like a source program. -/
def plain : Layer String → String
  | .apply callee arguments => callee ++ "(" ++ commaList arguments ++ ")"
  | .abstract parameters body => "λ" ++ commaList parameters ++ ". " ++ body
  | .assign name value => name ++ " = " ++ value
  | .var name => name
  | .literal value => value
  | .group label members => label ++ "\x7b" ++ "\n".intercalate members ++ "\x7d"

/-! ## Measures -/

/-- The number of nodes. -/
def count (layer : Layer Nat) : Nat := layer.payloads.foldl (· + ·) 1

/-- The number of nodes on the longest path from the root. -/
def height (layer : Layer Nat) : Nat := 1 + layer.payloads.foldl max 0

/-- The tags of all nodes, children before their parent. -/
def tags (layer : Layer (List String)) : List String :=
  layer.payloads.flatten ++ [layer.variant.tag]

/-- The strings of all nodes, a parent before its children. -/
def strings (layer : Layer (List String)) : List String :=
  layer.strings ++ layer.payloads.flatten

/-! ## Free names -/

/-- The free names of a node, each once, from those of its children. An abstraction binds the free
names of its parameters in its body; an assignment neither binds nor counts its own name. -/
def freeNames : Layer (List String) → List String
  | .var name => [name]
  | .literal _ => []
  | .abstract parameters body => body.filter fun name => !parameters.flatten.contains name
  | .apply callee arguments => (callee :: arguments).flatten.eraseDups
  | .assign _ value => value
  | .group label members => (label :: members).flatten.eraseDups

end Algebra

/-! ## Structural hashing -/

/-- Hash functions on strings and on tuples of hashes. -/
structure Hasher (κ : Type u) where
  /-- The hash of a string. -/
  text : String → κ
  /-- The hash of a tuple from the hashes of its items. -/
  tuple : List κ → κ

namespace Hasher

variable {κ : Type u}

/-- The hash of a field. A child is already represented by its hash. -/
def field (hasher : Hasher κ) : FieldValue κ → κ
  | .payload item => item
  | .sequence items => hasher.tuple items
  | .name text => hasher.text text

/-- The hash of a layer without its variant: the tuple of its fields. -/
def fields (hasher : Hasher κ) (layer : Layer κ) : κ :=
  hasher.tuple (layer.fields.map hasher.field)

/-- The hashing algebra: the pair of the tag and the fields. -/
def layer (hasher : Hasher κ) (layer : Layer κ) : κ :=
  hasher.tuple [hasher.text layer.variant.tag, hasher.fields layer]

/-- Spread every bit of a word over the whole word. -/
def scramble (word : UInt64) : UInt64 :=
  let word := (word ^^^ (word >>> 30)) * 0xBF58476D1CE4E5B9
  let word := (word ^^^ (word >>> 27)) * 0x94D049BB133111EB
  word ^^^ (word >>> 31)

/-- Take one more word into a hash. -/
def absorb (hash word : UInt64) : UInt64 :=
  scramble (hash * 0x9E3779B97F4A7C15 + scramble (word + 0x9E3779B97F4A7C15))

/-- A hasher on words that takes in the characters or items one by one, after their number. -/
def mixing : Hasher UInt64 where
  text content :=
    content.toList.foldl (fun hash c => absorb hash c.val.toUInt64)
      (absorb 1 content.length.toUInt64)
  tuple items := items.foldl absorb (absorb 2 items.length.toUInt64)

end Hasher

end LayeredTree
