import LayeredTree.Document.Basic
import LayeredTree.Layer.Basic

/-!
# Document builders

A builder offers five construction operations. The pretty algebra assembles a layer through a
builder and knows nothing else of the document type, so that any type with these operations can
take the result: the reference documents, strings, a notation of the construction steps, or lists
of indented lines.
-/

universe u v

namespace LayeredTree

/-- The construction operations of a document type. -/
structure Builder (δ : Type u) where
  text : String → δ
  horizontal : List δ → δ
  vertical : List δ → δ
  join : δ → List δ → δ
  wrap : δ → δ → δ → δ

namespace Builder

/-- The pretty algebra: the document of a node from those of its children. -/
def assemble {δ : Type u} (builder : Builder δ) : Layer δ → δ
  | .apply callee arguments =>
    builder.horizontal [callee,
      builder.wrap (builder.text "(") (builder.join (builder.text ", ") arguments)
        (builder.text ")")]
  | .abstract parameters body =>
    builder.horizontal [builder.text "λ", builder.join (builder.text ", ") parameters,
      builder.text ". ", body]
  | .assign name value => builder.horizontal [builder.text name, builder.text " = ", value]
  | .var name => builder.text name
  | .literal value => builder.text value
  | .group label members =>
    builder.horizontal [label,
      builder.wrap (builder.text "\x7b") (builder.vertical members) (builder.text "\x7d")]

/-- The builder of reference documents. -/
def reference {ω : Type u} : Builder (Document ω) where
  text := .text
  horizontal := .horizontal
  vertical := .vertical
  join := .join
  wrap := .wrap

/-- Documents as strings. -/
def string : Builder String where
  text content := content
  horizontal parts := String.join parts
  vertical parts := "\n".intercalate parts
  join separator parts := separator.intercalate parts
  wrap opening body closing := opening ++ body ++ closing

/-- The parts of a list with bars between them. -/
def barList (parts : List String) : String := "|".intercalate parts

/-- Documents as a notation of the steps by which they are built. -/
def notated : Builder String where
  text content := "<" ++ content ++ ">"
  horizontal parts := "H[" ++ barList parts ++ "]"
  vertical parts := "V[" ++ barList parts ++ "]"
  join separator parts := "J[" ++ separator ++ ":" ++ barList parts ++ "]"
  wrap opening body closing := "W[" ++ barList [opening, body, closing] ++ "]"

/-- Documents as lists of lines, in which stacked parts are indented between an empty line before
and one after them. -/
def indenting : Builder Block where
  text content := [content]
  horizontal := Block.glue
  vertical parts := "" :: (parts.flatten.map ("    " ++ ·) ++ [""])
  join separator parts := Block.glue (parts.intersperse separator)
  wrap opening body closing := Block.glue [opening, body, closing]

end Builder

namespace Document

variable {ω : Type u} {δ : Type v}

mutual

/-- Replace every node of a document by the operation of a builder, bottom-up. -/
def evaluate (builder : Builder δ) (outside : ω → δ) : Document ω → δ
  | text content => builder.text content
  | horizontal parts => builder.horizontal (evaluateAll builder outside parts)
  | vertical parts => builder.vertical (evaluateAll builder outside parts)
  | join separator parts =>
    builder.join (evaluate builder outside separator) (evaluateAll builder outside parts)
  | wrap opening body closing =>
    builder.wrap (evaluate builder outside opening) (evaluate builder outside body)
      (evaluate builder outside closing)
  | foreign thing => outside thing

/-- Evaluate the documents of a list. -/
def evaluateAll (builder : Builder δ) (outside : ω → δ) : List (Document ω) → List δ
  | [] => []
  | doc :: docs => evaluate builder outside doc :: evaluateAll builder outside docs

end

end Document

end LayeredTree
