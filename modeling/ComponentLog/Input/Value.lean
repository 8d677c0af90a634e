import ComponentLog.Numeric.Binary
import ComponentLog.Numeric.Word

/-!
# Loosely-typed input

`Value` is what callers hand in: scalars, nested lists, maps, or `null` for a field
that is absent. Its shape is read as for numeric arrays: a scalar or map has shape
`[]`, a list whose items share one shape has its length in front of that shape, and
a ragged list shows its own length alone.
-/

namespace ComponentLog

open Numeric

/-- Loosely-typed input for a component field. -/
inductive Value where
  | null
  | bool (b : Bool)
  | int (i : Int64)
  | float (x : Binary64)
  | str (s : String)
  | list (items : List Value)
  | map (entries : List (String × Value))
  deriving Inhabited

namespace Value

def isNull : Value → Bool
  | null => true
  | _ => false

/-- The name of the kind of value, as messages give it. -/
def typeName : Value → String
  | null => "null"
  | bool _ => "boolean"
  | int _ => "integer"
  | float _ => "float"
  | str _ => "string"
  | list _ => "list"
  | map _ => "map"

/-- A scalar as a number. Booleans are not numbers. -/
def number? : Value → Option Binary64
  | int i => some (.ofInt i.toInt)
  | float x => some x
  | _ => none

def items? : Value → Option (List Value)
  | list items => some items
  | _ => none

def isList (v : Value) : Bool := v.items?.isSome

/-- The entry a key names in a map; the first one where a key is repeated. -/
def entry? (entries : List (String × Value)) (key : String) : Option Value :=
  (entries.find? (·.1 = key)).map (·.2)

/-! ## Shape -/

/-- How many entries an array of the shape has. -/
def shapeSize : List Nat → Nat
  | [] => 1
  | n :: ns => n * shapeSize ns

/-- The one shape that all of several shapes agree on, `[]` where there are none. -/
def commonShape? : List (List Nat) → Option (List Nat)
  | [] => some []
  | s :: rest => if rest.all (· = s) then some s else none

mutual

/-- The shape of a value whose lists are uniform at every level. -/
def rectangularShape? : Value → Option (List Nat)
  | list items => do
    let shapes ← itemShapes? items
    let inner ← commonShape? shapes
    return items.length :: inner
  | _ => some []

def itemShapes? : List Value → Option (List (List Nat))
  | [] => some []
  | v :: rest => do
    let s ← rectangularShape? v
    let ss ← itemShapes? rest
    return s :: ss

end

def shape (v : Value) : List Nat :=
  match v with
  | list items => v.rectangularShape?.getD [items.length]
  | _ => []

def isRectangular (v : Value) : Bool := v.rectangularShape?.isSome

/-- Whether this is a list without a list among its items. -/
def isFlatList : Value → Bool
  | list items => items.all (!·.isList)
  | _ => false

mutual

/-- All values that are no lists, depth first. -/
def leaves : Value → List Value
  | list items => itemLeaves items
  | null => [null]
  | bool b => [bool b]
  | int i => [int i]
  | float x => [float x]
  | str s => [str s]
  | map entries => [map entries]

def itemLeaves : List Value → List Value
  | [] => []
  | v :: rest => leaves v ++ itemLeaves rest

end

theorem itemLeaves_eq_flatMap (items : List Value) : itemLeaves items = items.flatMap leaves := by
  induction items with
  | nil => rfl
  | cons v rest ih => simp [itemLeaves, ih]

theorem leaves_of_not_isList {v : Value} (h : v.isList = false) : v.leaves = [v] := by
  cases v <;> simp_all [leaves, isList, items?]

/-! ## Serialized form -/

mutual

/-- What is left of a value once it is written as a document and read back: numbers that are
not finite become null, and the keys of a map come in ascending order. -/
def serialized : Value → Value
  | float x => if x.isFinite then float x else null
  | list items => list (serializedItems items)
  | map entries => map ((serializedEntries entries).mergeSort fun a b => a.1 ≤ b.1)
  | null => null
  | bool b => bool b
  | int i => int i
  | str s => str s

def serializedItems : List Value → List Value
  | [] => []
  | v :: rest => serialized v :: serializedItems rest

def serializedEntries : List (String × Value) → List (String × Value)
  | [] => []
  | (k, v) :: rest => (k, serialized v) :: serializedEntries rest

end

/-! ## From typed data -/

/-- An integer that does not fit the 64-bit signed range is kept as the nearest float. -/
def ofInt (i : Int) : Value :=
  match int64? i with
  | some w => int w
  | none => float (.ofInt i)

def ofBinary32 (x : Binary32) : Value := float x.widen

/-- Puts an entry into a map: a key already there keeps its place and takes the new value. -/
def insertEntry (entries : List (String × Value)) (key : String) (v : Value) :
    List (String × Value) :=
  if entries.any (·.1 = key) then
    entries.map fun e => if e.1 = key then (key, v) else e
  else entries ++ [(key, v)]

/-- The map of entries given in order. -/
def ofEntries (entries : List (String × Value)) : Value :=
  map (entries.foldl (fun acc e => insertEntry acc e.1 e.2) [])

end Value

end ComponentLog
