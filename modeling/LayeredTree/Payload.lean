import LayeredTree.Binary64.Decimal
import LayeredTree.Document.Basic
import LayeredTree.Failure

/-!
# Plain payloads

What operations on texts, numbers and lists make of plain data, where the data may not fit. A text
fits where a list is expected, as the list of its characters.
-/

namespace LayeredTree.Value

/-! ## Notation -/

mutual

/-- A value in notation, with texts in quotes. -/
def quoted : Value → String
  | null => "None"
  | bool value => if value then "True" else "False"
  | int value => toString value
  | float value => value.toText
  | string value => Text.Quoted.encode value
  | array items => "[" ++ ", ".intercalate (quotedItems items) ++ "]"
  | object members => "\x7b" ++ ", ".intercalate (quotedMembers members) ++ "\x7d"

/-- Each value of a list in notation. -/
def quotedItems : List Value → List String
  | [] => []
  | item :: items => quoted item :: quotedItems items

/-- Each member of an object in notation. -/
def quotedMembers : List (String × Value) → List String
  | [] => []
  | (name, item) :: members =>
    (Text.Quoted.encode name ++ ": " ++ quoted item) :: quotedMembers members

end

/-- A value in notation, or the text itself. -/
def written : Value → String
  | string value => value
  | other => other.quoted

/-! ## Numbers and lists -/

/-- A value as a number. -/
def integer : Value → Except Failure Int
  | int value => .ok value
  | bool value => .ok (if value then 1 else 0)
  | other => .error (.operandKinds "+" "int" other.kindName)

/-- A value is larger than another: both are numbers, or both are texts, which are ordered by their
code points. -/
def exceeds : Value → Value → Except Failure Bool
  | string left, string right => .ok (right < left)
  | left, right =>
    match left.units?, right.units? with
    | some m, some n => .ok (n < m)
    | _, _ => .error (.unordered left.kindName right.kindName)

/-- The largest of several values, the first one of them. -/
def largest (best : Value) : List Value → Except Failure Value
  | [] => .ok best
  | item :: items => do
    if ← item.exceeds best then largest item items else largest best items

/-- A value as a list: a text counts as the list of its characters. -/
def characters : Value → Except Failure (List String)
  | string text => .ok (text.toList.map String.singleton)
  | other => .error (.notIterable other.kindName)

/-- A value that counts as nothing: zero, false, or empty. -/
def isVoid : Value → Bool
  | null => true
  | bool value => !value
  | string value => value.isEmpty
  | array items => items.isEmpty
  | object members => members.isEmpty
  | number => number.units? == some 0

/-! ## Documents -/

/-- A value where a reference document is expected: it is none. -/
def asDocument {ω : Type} (value : Value) : Except Failure (Document ω) :=
  .error (.notADocument value.kindName)

/-- A value as a text of a reference document. Only a text can be split into lines. -/
def asText {ω : Type} : Value → Except Failure (Document ω)
  | string content => .ok (.text content)
  | other => .error (.notSplittable other.kindName)

/-- A value as a block in a row: a text counts as a line for each of its characters, and what
counts as nothing leaves no line. -/
def asRowPart (value : Value) : Except Failure Block :=
  if value.isVoid then .ok []
  else match value with
    | string text => .ok (text.toList.map String.singleton)
    | other => .error (.notIndexable other.kindName)

/-- A value as a line that others are put before or behind: it must be a text. -/
def asLine : Value → Except Failure Block
  | string line => .ok [line]
  | other => .error (.textExtension other.kindName)

end LayeredTree.Value
