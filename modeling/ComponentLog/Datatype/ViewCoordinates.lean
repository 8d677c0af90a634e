import ComponentLog.Datatype.Group
import ComponentLog.Text.Case

/-!
# View coordinates

How the three axes of a space are oriented, as three direction codes. A name is a
preset or three direction letters on three different axes, in any mixture of ASCII
cases; numeric input is three codes a value.
-/

namespace ComponentLog

open Columnar

/-- A direction along one axis. -/
inductive ViewDirection where
  | up
  | down
  | right
  | left
  | forward
  | back
  deriving DecidableEq, Repr

namespace ViewDirection

def code : ViewDirection → UInt8
  | up => 1
  | down => 2
  | right => 3
  | left => 4
  | forward => 5
  | back => 6

def ofCode? : UInt8 → Option ViewDirection
  | 1 => some up
  | 2 => some down
  | 3 => some right
  | 4 => some left
  | 5 => some forward
  | 6 => some back
  | _ => none

def letter : ViewDirection → Char
  | up => 'U'
  | down => 'D'
  | right => 'R'
  | left => 'L'
  | forward => 'F'
  | back => 'B'

/-- The direction of a letter in either ASCII case. -/
def ofLetter? (c : Char) : Option ViewDirection :=
  match c.toUpper with
  | 'U' => some up
  | 'D' => some down
  | 'R' => some right
  | 'L' => some left
  | 'F' => some forward
  | 'B' => some back
  | _ => none

/-- Which of the three axes of space the direction lies on. -/
def axis : ViewDirection → Fin 3
  | up => 0
  | down => 0
  | right => 1
  | left => 1
  | forward => 2
  | back => 2

def label : ViewDirection → String
  | up => "Up"
  | down => "Down"
  | right => "Right"
  | left => "Left"
  | forward => "Forward"
  | back => "Back"

theorem ofCode?_code (d : ViewDirection) : ofCode? d.code = some d := by cases d <;> rfl

theorem ofLetter?_letter (d : ViewDirection) : ofLetter? d.letter = some d := by
  cases d <;> decide

end ViewDirection

/-- The directions of the x, y and z axes, as codes. -/
structure ViewCoordinates where
  codes : Vector UInt8 3
  deriving DecidableEq, Repr

namespace ViewCoordinates

open ViewDirection

def name : String := "ViewCoordinates"

def dataType : DataType := .groupOf .uint8 3

def new (x y z : ViewDirection) : ViewCoordinates := ⟨#v[x.code, y.code, z.code]⟩

def rdf : ViewCoordinates := new right down forward

def rub : ViewCoordinates := new right up back

def rfu : ViewCoordinates := new right forward up

def flu : ViewCoordinates := new forward left up

/-- Names of whole coordinate systems. -/
def presets : List (String × ViewCoordinates) :=
  [("RIGHT_HAND_Y_DOWN", rdf), ("RIGHT_HAND_Y_UP", rub), ("RIGHT_HAND_Z_UP", rfu)]

/-- The three directions, where all codes are codes of directions. -/
def directions? (v : ViewCoordinates) : Option (List ViewDirection) :=
  v.codes.toList.mapM ofCode?

/-- Three letters such as `RDF`; empty where a code is none of a direction. -/
def letters (v : ViewCoordinates) : String :=
  match v.directions? with
  | some ds => String.ofList (ds.map letter)
  | none => ""

/-- Three directions on three different axes. -/
def ofDirections? : List ViewDirection → Option ViewCoordinates
  | [x, y, z] =>
    if x.axis = y.axis ∨ y.axis = z.axis ∨ x.axis = z.axis then none else some (new x y z)
  | _ => none

def parse? (text : String) : Option ViewCoordinates :=
  match presets.find? fun p => Text.equalIgnoringCase p.1 text with
  | some p => some p.2
  | none => do
    let ds ← text.toList.mapM ofLetter?
    ofDirections? ds

def parse (text : String) : Except ConversionError ViewCoordinates :=
  match parse? text with
  | some v => .ok v
  | none => .error (.unknownVariant name text)

/-! ## Input and columns -/

/-- A number that is the code of a direction. -/
def leafCode (v : Value) : Except ConversionError UInt8 := do
  let code ← Leaf.uint8 name v
  match ofCode? code with
  | some _ => return code
  | none => throw (.outOfRange name code.toNat)

/-- An item of a list of names. -/
def ofName (v : Value) : Except ConversionError ViewCoordinates :=
  match v with
  | .str text => parse text
  | v => .error (Leaf.wrongKind name "string" v)

def ofInput (v : Value) : Except ConversionError (List ViewCoordinates) :=
  match v with
  | .str text => (parse text).map ([·])
  | .list (.str text :: rest) => (.str text :: rest).mapM ofName
  | v => (groupValues 3 name leafCode v).map (·.map mk)

def toSeries (vs : List ViewCoordinates) : Except ConversionError Series :=
  encodeGroups .uint8 (vs.map codes)

def ofSeries (a : Series) : Except ConversionError (List ViewCoordinates) :=
  (decodeGroups 3 .uint8 name a).map (·.map mk)

def toValue (v : ViewCoordinates) : Value :=
  .list (v.codes.toList.map fun c => .int (.ofInt c.toNat))

end ViewCoordinates

end ComponentLog
