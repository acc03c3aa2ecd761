import LayeredTree.Document.Layout
import LayeredTree.Failure

/-!
# Outlines of documents

An outline describes a document in which parts can be named: a document can be wrapped a number of
times in a wrapper that refers to what has been made so far. A name without a binding is reported.
Plain data may stand for documents in an outline: then laying it out fails at the first value, and a
comparison compares the values by meaning.
-/

universe u

namespace LayeredTree

/-- How to make a document. -/
inductive Outline (ω : Type u) where
  | text (content : String)
  | horizontal (parts : List (Outline ω))
  | vertical (parts : List (Outline ω))
  | join (separator : Outline ω) (parts : List (Outline ω))
  | wrap (opening body closing : Outline ω)
  /-- Something that is no document. -/
  | foreign (thing : ω)
  /-- The document that a name stands for. -/
  | ref (name : String)
  /-- The start, wrapped a number of times in the wrapper, in which the name stands for what has
  been made so far. -/
  | repeated (count : Nat) (name : String) (wrapper start : Outline ω)

namespace Outline

variable {ω : Type u}

mutual

/-- Make the document of an outline under the names in force, the innermost first. -/
def build (scope : List (String × Document ω)) : Outline ω → Except String (Document ω)
  | text content => .ok (.text content)
  | horizontal parts => do return .horizontal (← buildAll scope parts)
  | vertical parts => do return .vertical (← buildAll scope parts)
  | join separator parts => do
    let separator ← build scope separator
    return .join separator (← buildAll scope parts)
  | wrap opening body closing => do
    let opening ← build scope opening
    let body ← build scope body
    return .wrap opening body (← build scope closing)
  | foreign thing => .ok (.foreign thing)
  | ref name =>
    match scope.lookup name with
    | some doc => .ok doc
    | none => .error name
  | repeated count name wrapper start => do
    let first ← build scope start
    count.foldM (fun _ _ previous => build ((name, previous) :: scope) wrapper) first

/-- Make the documents of several outlines. -/
def buildAll (scope : List (String × Document ω)) :
    List (Outline ω) → Except String (List (Document ω))
  | [] => .ok []
  | outline :: outlines => do
    let doc ← build scope outline
    return doc :: (← buildAll scope outlines)

end

/-! ## Plain data in documents -/

/-- Make the document of an outline. -/
def make (outline : Outline ω) : Except Failure (Document ω) :=
  match outline.build [] with
  | .ok doc => .ok doc
  | .error name => .error (.unbound name)

/-- Make and lay out a document in which values of other kinds may stand for documents. -/
def render (outline : Outline Value) : Except Failure String := do
  let doc ← outline.make
  match doc.render with
  | .ok content => return content
  | .error thing => throw (.notADocument thing.kindName)

/-- Make two documents and compare them. -/
def agrees (left right : Outline Value) : Except Failure Bool := do
  let left ← left.make
  let right ← right.make
  return Document.agrees Value.agrees left right

end Outline

end LayeredTree
