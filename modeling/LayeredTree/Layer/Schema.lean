import LayeredTree.Layer.Basic

/-!
# The schema of the variants

Each variant declares its fields with a type: a payload, a sequence of payloads or a string. The
schema of a variant classifies these declarations, without looking at any layer. The fields of a
layer, on the other hand, are values read off it in declared order.
-/

universe u

namespace LayeredTree

/-- A declared type of a field, as far as classification looks into it. -/
inductive FieldType where
  /-- The payload parameter of the layer. -/
  | parameter
  /-- The type of strings. -/
  | string
  /-- The mark for "any number of these". -/
  | ellipsis
  /-- A tuple type with its items. -/
  | tuple (items : List FieldType)
  /-- Any other type constructor with its arguments. -/
  | other (name : String) (arguments : List FieldType)

/-- The role of a field with respect to the payloads. -/
inductive FieldKind where
  | payload
  | payloadSequence
  | name
  deriving DecidableEq, Repr

/-- The label of a kind in reports. -/
def FieldKind.label : FieldKind → String
  | payload => "payload"
  | payloadSequence => "payload_sequence"
  | name => "name"

/-- The kind of a declared type: the parameter is a payload, a string is a name, and a tuple of
any number of parameters is a sequence. No other type is classified. -/
def FieldType.kind? : FieldType → Option FieldKind
  | parameter => some .payload
  | string => some .name
  | tuple [parameter, ellipsis] => some .payloadSequence
  | _ => none

/-- What is said of a type that has no kind. -/
def FieldType.unclassified : String := "Cannot classify field type"

/-- The six variants of a layer. -/
inductive Variant where
  | apply
  | abstract
  | assign
  | var
  | literal
  | group
  deriving DecidableEq, Repr

namespace Variant

/-- The variants in the order of their declaration. -/
def all : List Variant := [apply, abstract, assign, var, literal, group]

/-- The tag of a variant. -/
def tag : Variant → String
  | apply => "apply"
  | abstract => "abstract"
  | assign => "assign"
  | var => "variable"
  | literal => "literal"
  | group => "group"

/-- The variant with a given tag. -/
def ofTag? (name : String) : Option Variant := all.find? (·.tag == name)

/-- The declared type of a sequence of payloads. -/
def sequenceType : FieldType := .tuple [.parameter, .ellipsis]

/-- The declared fields of a variant, in order. -/
def declarations : Variant → List (String × FieldType)
  | apply => [("callee", .parameter), ("arguments", sequenceType)]
  | abstract => [("parameters", sequenceType), ("body", .parameter)]
  | assign => [("name", .string), ("value", .parameter)]
  | var => [("name", .string)]
  | literal => [("value", .string)]
  | group => [("label", .parameter), ("members", sequenceType)]

end Variant

/-- The tag of a variant and the kinds of its fields. -/
structure Schema where
  /-- The tag of the variant. -/
  tag : String
  /-- The names and kinds of the fields, in declared order. -/
  fields : List (String × FieldKind)
  deriving DecidableEq, Repr

/-- The names of the fields that hold payloads. -/
def Schema.payloadFields (schema : Schema) : List String :=
  (schema.fields.filter fun field => field.2 != .name).map (·.1)

/-- The schema of a variant, from the declared types of its fields. -/
def Variant.schema (variant : Variant) : Schema where
  tag := variant.tag
  fields := variant.declarations.filterMap fun (name, type) => type.kind?.map (name, ·)

/-- The value of a field of a layer. -/
inductive FieldValue (α : Type u) where
  | payload (item : α)
  | sequence (items : List α)
  | name (text : String)
  deriving DecidableEq, Repr

/-- The kind of a field's value. -/
def FieldValue.kind {α : Type u} : FieldValue α → FieldKind
  | payload _ => .payload
  | sequence _ => .payloadSequence
  | name _ => .name

namespace Layer

variable {α : Type u}

/-- The variant of a layer. -/
def variant : Layer α → Variant
  | apply _ _ => .apply
  | abstract _ _ => .abstract
  | assign _ _ => .assign
  | var _ => .var
  | literal _ => .literal
  | group _ _ => .group

/-- The values of the fields of a layer, in declared order. -/
def fields : Layer α → List (FieldValue α)
  | apply callee arguments => [.payload callee, .sequence arguments]
  | abstract parameters body => [.sequence parameters, .payload body]
  | assign name value => [.name name, .payload value]
  | var name => [.name name]
  | literal value => [.name value]
  | group label members => [.payload label, .sequence members]

/-- The value of the field of a name, if the variant of the layer declares one. -/
def field? (layer : Layer α) (name : String) : Option (FieldValue α) :=
  ((layer.variant.declarations.map (·.1)).zip layer.fields).lookup name

/-- The kinds of a layer's field values are those that the schema of its variant announces. -/
theorem kinds_fields (layer : Layer α) :
    layer.fields.map FieldValue.kind = layer.variant.schema.fields.map (·.2) := by
  cases layer <;> rfl

end Layer

end LayeredTree
