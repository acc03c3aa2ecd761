import LayeredTree.Binary64.Basic

/-!
# Plain data

Values come from outside the library: raw settings before they are checked, the details of an
error, what a dictionary stores under a tree, or a thing that stands where a tree or a document
was expected. `Value.agrees` compares by meaning: a truth value counts as one or zero, numbers are
compared exactly, whether integers or not, and the order of an object's members does not matter.
-/

namespace LayeredTree

/-- Plain data of the usual seven kinds, with numbers of two kinds. -/
inductive Value where
  | null
  | bool (value : Bool)
  | int (value : Int)
  /-- A number written with a point or an exponent. -/
  | float (value : Binary64)
  | string (value : String)
  | array (items : List Value)
  | object (members : List (String × Value))
  deriving Inhabited, Repr

namespace Value

/-- The name of a value's kind in messages. -/
def kindName : Value → String
  | null => "NoneType"
  | bool _ => "bool"
  | int _ => "int"
  | float _ => "float"
  | string _ => "str"
  | array _ => "list"
  | object _ => "dict"

/-- A finite number in units of the smallest positive binary64 number, which measure integers, too.
A truth value counts as one or zero. -/
def units? : Value → Option Int
  | bool value => some (if value then Binary64.one else 0)
  | int value => some (value * Binary64.one)
  | float value => value.units?
  | _ => none

mutual

/-- Two values mean the same. -/
def agrees : Value → Value → Bool
  | null, null => true
  | string left, string right => left == right
  | array left, array right => agreeAll left right
  | object left, object right => left.length == right.length && membersAgree left right
  | float (.infinite left), float (.infinite right) => left == right
  | left, right =>
    match left.units?, right.units? with
    | some m, some n => m == n
    | _, _ => false

/-- Two sequences have the same length and agree position by position. -/
def agreeAll : List Value → List Value → Bool
  | [], [] => true
  | left :: lefts, right :: rights => agrees left right && agreeAll lefts rights
  | _, _ => false

/-- Every member on the left has a member of the same name on the right that agrees with it. -/
def membersAgree : List (String × Value) → List (String × Value) → Bool
  | [], _ => true
  | (name, left) :: lefts, rights =>
    (match rights.lookup name with
      | some right => agrees left right
      | none => false) && membersAgree lefts rights

end

end Value

end LayeredTree
