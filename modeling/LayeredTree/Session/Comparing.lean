import LayeredTree.Comparison.Loop
import LayeredTree.Algebra
import LayeredTree.Session.Folds

/-!
# Comparing, hashing and looking up trees in a session

Trees are equal when the comparison says so, and the hash of a tree is a fold, both under the
default settings unless others are given. A dictionary keyed by trees finds a key by its hash and
then by comparison with the stored key, on the left; identical nodes need no comparison.
-/

namespace LayeredTree.Session

variable [Settings.Validation]

/-- Compare two nodes under given settings, or else under the default ones. -/
def equalNodes (settings? : Option Settings) (left right : NodeId) : Action Bool := do
  let settings ← guards settings?
  walk (forest.equal settings left right)

/-- Make two trees and compare them. -/
def equal (left right : Blueprint) (keywords? : Option Settings.Keywords) : Action Bool := do
  let left ← plant left
  let right ← plant right
  let settings? ← readSettings keywords?
  equalNodes settings? left right

/-- The answers to the questions whether two things are equal and whether they differ. -/
structure Verdict where
  equal : Bool
  differ : Bool
  deriving DecidableEq, Repr

/-- Make two trees and ask both questions, each by a comparison of its own. -/
def verdict (left right : Blueprint) : Action Verdict := do
  let left ← plant left
  let right ← plant right
  let equal ← equalNodes none left right
  let again ← equalNodes none left right
  return ⟨equal, !again⟩

/-- Make a tree and compare it with something that is no tree: they differ, and nothing is
revealed. -/
def verdictOnForeign (blueprint : Blueprint) : Action Verdict := do
  let _ ← plant blueprint
  return ⟨false, true⟩

/-- The structural hash of a node. -/
def hashNode (id : NodeId) : Action UInt64 := foldPure none Hasher.mixing.layer id

/-- The position of the first entry with a given hash whose key equals a node. -/
def findAmong (hash : UInt64) (id : NodeId) : List Entry → Action (Option Nat)
  | [] => return none
  | entry :: entries => do
    let found ← if entry.hash == hash then
        if entry.key == id then pure true else equalNodes none entry.key id
      else pure false
    if found then return some 0
    else return (← findAmong hash id entries).map (· + 1)

/-- Hash a node and look it up in the dictionary. -/
def locate (id : NodeId) : Action (UInt64 × Option Nat) := do
  let hash ← hashNode id
  return (hash, ← findAmong hash id (← get).entries)

/-- Store a value under a tree. An equal key that is already there stays and gets the new value.
The answer is the size of the dictionary. -/
def put (blueprint : Blueprint) (value : Value) : Action Nat := do
  let id ← plant blueprint
  let (hash, position?) ← locate id
  modify fun session =>
    { session with
      entries := match position? with
        | some position => session.entries.modify position ({ · with value })
        | none => session.entries ++ [⟨hash, id, value⟩] }
  return (← get).entries.length

/-- The value stored under a tree. -/
def lookup (blueprint : Blueprint) : Action (Option Value) := do
  let id ← plant blueprint
  let (_, position?) ← locate id
  let session ← get
  return position?.bind fun position => session.entries[position]?.map (·.value)

/-- Remove a tree, looked up once for its value and once more for its entry. The answer is the value
and the size of the dictionary afterwards. -/
def remove (blueprint : Blueprint) : Action (Option Value × Nat) := do
  let id ← plant blueprint
  let (_, position?) ← locate id
  match position? with
  | none => return (none, (← get).entries.length)
  | some position =>
    let removed := (← get).entries[position]?.map (·.value)
    let (_, again?) ← locate id
    if let some again := again? then
      modify fun session => { session with entries := session.entries.eraseIdx again }
    return (removed, (← get).entries.length)

/-- What hashing several trees showed. -/
structure HashReport where
  /-- For each tree the position of the first tree with the same hash. -/
  groups : List Nat
  /-- The number of different trees. -/
  distinct : Nat
  deriving DecidableEq, Repr

/-- Collect nodes in a set: each is hashed and compared with the members of the same hash. -/
def collect (members : List Entry) : List NodeId → Action (List Entry)
  | [] => return members
  | id :: ids => do
    let hash ← hashNode id
    let members ← match ← findAmong hash id members with
      | some _ => pure members
      | none => pure (members ++ [⟨hash, id, .null⟩])
    collect members ids

/-- Make several trees, hash each, and then collect them in a set. -/
def hashAll (blueprints : List Blueprint) : Action HashReport := do
  let ids ← blueprints.mapM plant
  let hashes ← ids.mapM hashNode
  let members ← collect [] ids
  return ⟨hashes.map hashes.idxOf, members.length⟩

end LayeredTree.Session
