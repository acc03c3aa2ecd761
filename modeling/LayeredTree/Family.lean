import LayeredTree.Document.Layout
import LayeredTree.Failure
import LayeredTree.Text.Characters

/-!
# Declaring new kinds

The variants of layers are a closed family: no further one can be declared. Documents are open:
a new kind is entered under its tag, but the layout does not know it. In either family, a name with
a null character in it is refused first.
-/

namespace LayeredTree

/-- Check the name of a declaration. -/
def checkName (name : String) : Except Failure Unit :=
  if name.contains '\x00' then .error .nullInName else .ok ()

/-- Declare a variant of layers, which is refused whatever its name. -/
def Layer.declareVariant {α : Type} (name : String) : Except Failure α := do
  checkName name
  throw (.closedFamily name)

namespace Document

/-- The tags of the kinds of document, in the order in which they are entered. -/
def kindTags : List String := ["text", "horizontal", "vertical", "join", "wrap"]

/-- A newly declared kind of document. -/
structure Declaration where
  /-- The tag of the new kind. -/
  tag : String
  /-- The tags of all kinds afterwards. -/
  tags : List String

/-- Declare a kind of document. Its tag is its name in lower case unless a tag is given. A tag that
is already entered keeps its place. -/
def declareKind (name : String) (tag? : Option String) : Except Failure Declaration := do
  checkName name
  let tag := match tag? with
    | some tag => if tag.isEmpty then Text.lower name else tag
    | none => Text.lower name
  return ⟨tag, if kindTags.contains tag then kindTags else kindTags ++ [tag]⟩

/-- Lay out a row of a text and a document of a newly declared kind. -/
def renderDeclared (name : String) : Except Failure String :=
  match Document.render (horizontal [text name, foreign name]) with
  | .ok content => .ok content
  | .error kind => .error (.notADocument kind)

end Document

end LayeredTree
