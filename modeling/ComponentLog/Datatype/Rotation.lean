import ComponentLog.Datatype.Vec3D

/-!
# Rotations around an axis

A rotation is written as a map with an axis and an angle, or as a pair of a list and
a number, which are the axis and the radians. Input is one rotation or a list of
them; a list that itself is such a pair is one rotation.
-/

namespace ComponentLog

open Columnar Numeric

/-- An angle in radians. -/
structure Angle where
  radians : Binary32
  deriving DecidableEq, Repr

namespace Angle

/-- The 32-bit number nearest to a 180th of the 32-bit number nearest to pi. -/
def radiansPerDegree : Binary32 := ⟨0x3c8efa35⟩

/-- The 32-bit number nearest to 180 over pi. -/
def degreesPerRadian : Binary32 := ⟨0x42652ee1⟩

def ofDegrees (degrees : Binary32) : Angle := ⟨degrees.mul radiansPerDegree⟩

def degrees (a : Angle) : Binary32 := a.radians.mul degreesPerRadian

def zero : Angle := ⟨.zero⟩

end Angle

structure RotationAxisAngle where
  axis : Vec3D
  angle : Angle
  deriving DecidableEq, Repr

namespace RotationAxisAngle

def name : String := "RotationAxisAngle"

def dataType : DataType :=
  .struct [⟨"axis", Vec3D.dataType, false⟩, ⟨"angle", .float32, false⟩]

def zero : RotationAxisAngle := ⟨.zero, .zero⟩

/-! ## Reading input -/

/-- The axis and the radians of a pair. -/
def pair? : List Value → Option (Value × Value)
  | [axis, radians] =>
    if axis.isList && radians.number?.isSome then some (axis, radians) else none
  | _ => none

/-- Exactly one axis. -/
def axisOf (v : Value) : Except ConversionError Vec3D := do
  match ← Vec3D.ofInput v with
  | [axis] => return axis
  | _ => throw (.wrongArity Vec3D.name 3 v.leaves.length)

/-- The angle of a map: in radians under `angle`, else under `radians`, else in degrees under
`degrees`. -/
def angleOf (entries : List (String × Value)) : Except ConversionError Angle :=
  match (Value.entry? entries "angle").or (Value.entry? entries "radians") with
  | some v => (Leaf.binary32 name v).map Angle.mk
  | none => match Value.entry? entries "degrees" with
    | some v => (Leaf.binary32 name v).map Angle.ofDegrees
    | none => .error (.missingField name "angle")

def ofMap (entries : List (String × Value)) : Except ConversionError RotationAxisAngle := do
  let some axis := Value.entry? entries "axis" | throw (.missingField name "axis")
  let axis ← axisOf axis
  let angle ← angleOf entries
  return ⟨axis, angle⟩

def ofPair (axis radians : Value) : Except ConversionError RotationAxisAngle := do
  let axis ← axisOf axis
  let radians ← Leaf.binary32 name radians
  return ⟨axis, ⟨radians⟩⟩

/-- One rotation, as a map or a pair. -/
def ofItem (v : Value) : Except ConversionError RotationAxisAngle :=
  match v with
  | .map entries => ofMap entries
  | .list items => match pair? items with
    | some (axis, radians) => ofPair axis radians
    | none => .error (Leaf.wrongKind name "map or [axis, angle]" v)
  | v => .error (Leaf.wrongKind name "map or [axis, angle]" v)

def ofInput (v : Value) : Except ConversionError (List RotationAxisAngle) :=
  match v with
  | .null => .ok []
  | .map _ => (ofItem v).map ([·])
  | .list items =>
    if (pair? items).isSome then (ofItem v).map ([·]) else items.mapM ofItem
  | v => .error (Leaf.wrongKind name "map or list" v)

def toValue (r : RotationAxisAngle) : Value :=
  .map [("axis", r.axis.toValue), ("radians", .ofBinary32 r.angle.radians)]

/-! ## In a column -/

def toSeries (rs : List RotationAxisAngle) : Except ConversionError Series := do
  let axes ← Vec3D.toSeries (rs.map axis)
  let angles := Storage.binary32.write (rs.map (·.angle.radians))
  (Series.ofColumns? [(⟨"axis", false⟩, axes), (⟨"angle", false⟩, angles)]).mapError .columnar

/-- The first column holds the axes and the second the radians, whatever their names; further
columns are passed over. -/
def ofSeries (a : Series) : Except ConversionError (List RotationAxisAngle) :=
  match a with
  | .struct _ _ columns => do
    let some (_, axes) := columns[0]? | throw (.fault (.missingColumn 0))
    let axes ← Vec3D.ofSeries axes
    let some (_, angles) := columns[1]? | throw (.fault (.missingColumn 1))
    let angles ← decodeScalars .binary32 name angles
    return axes.zipWith (fun axis radians => ⟨axis, ⟨radians⟩⟩) angles
  | _ => .error (columnMismatch name)

def sameNumber (r s : RotationAxisAngle) : Bool :=
  r.axis.sameNumber s.axis && r.angle.radians.sameNumber s.angle.radians

end RotationAxisAngle

end ComponentLog
