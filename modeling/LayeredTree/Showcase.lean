import LayeredTree.Session.Folds

/-!
# A showcase

One small tree, written in three ways, measured by two further folds, and laid out through a
builder of indented lines.
-/

namespace LayeredTree.Showcase

open Session

variable [Settings.Validation]

/-- The tree of the showcase: two assignments in a group, the second using the first. -/
def tree : Blueprint :=
  .group (.var "Main") [
    .assign "inc" (.abstract [.var "x"] (.apply (.var "add") [.var "x", .literal "1"])),
    .assign "result" (.apply (.var "inc") [.literal "41"])]

/-- A list of names in quotes. -/
def quotedList (names : List String) : String :=
  "[" ++ ", ".intercalate (names.map Text.Quoted.encode) ++ "]"

/-- The tree in its three renderings. -/
def renderings : Action (List String) := do
  let id ← plant tree
  return ["Debug:", ← renderNode id .debug, "",
    "Plain:", ← renderNode id .plain, "",
    "Pretty (naive layout):", ← renderNode id .pretty, ""]

/-- The free names of the tree and the number of its nodes. -/
def measures : Action (List String) := do
  let id ← plant tree
  let free ← foldPure none Algebra.freeNames id
  let size ← foldPure none Algebra.count id
  return ["Free variables: " ++ quotedList free.mergeSort, "Node count: " ++ toString size, ""]

/-- The tree as indented lines. -/
def indentation : Action (List String) := do
  let lines ← pretty Builder.indenting tree
  return ["\n".intercalate lines, ""]

/-- All parts with headings. -/
def everything : Action (List String) := do
  let rule := "".pushn '=' 80
  let opening := [rule, "Rendering Example", rule, "", "--- Example 1: Built-in Renderers ---"]
  let first ← renderings
  let second ← measures
  let third ← indentation
  return opening ++ first ++ ["--- Example 2: Custom Algebras ---"] ++ second ++
    ["--- Example 3: Custom Document Type ---"] ++ third ++
    ["All examples completed successfully!"]

/-- The lines of a text in which each item has been printed with a newline behind it. -/
def transcript (printed : List String) : List String :=
  Block.ofText (String.join (printed.map (· ++ "\n")))

end LayeredTree.Showcase
