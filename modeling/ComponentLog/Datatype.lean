import ComponentLog.Datatype.MagnificationFilter
import ComponentLog.Datatype.Mat3x3
import ComponentLog.Datatype.Quaternion
import ComponentLog.Datatype.Range1D
import ComponentLog.Datatype.Rotation
import ComponentLog.Datatype.Vec3D
import ComponentLog.Datatype.ViewCoordinates

/-!
# Datatypes

The canonical value types. Each reads loosely-typed input into any number of values,
stores values in a column of one data type, reads such a column back, and gives a
value back as input.
-/

namespace ComponentLog

open Columnar

inductive Datatype where
  | bool
  | utf8
  | vec3D
  | quaternion
  | range1D
  | mat3x3
  | rotationAxisAngle
  | viewCoordinates
  | magnificationFilter
  deriving DecidableEq, Repr

namespace Datatype

/-- The values of a datatype. -/
abbrev Carrier : Datatype → Type
  | bool => Bool
  | utf8 => String
  | vec3D => Vec3D
  | quaternion => Quaternion
  | range1D => Range1D
  | mat3x3 => Mat3x3
  | rotationAxisAngle => RotationAxisAngle
  | viewCoordinates => ViewCoordinates
  | magnificationFilter => MagnificationFilter

/-- The name in messages. -/
def name : Datatype → String
  | bool => "Bool"
  | utf8 => "Utf8"
  | vec3D => Vec3D.name
  | quaternion => Quaternion.name
  | range1D => Range1D.name
  | mat3x3 => Mat3x3.name
  | rotationAxisAngle => RotationAxisAngle.name
  | viewCoordinates => ViewCoordinates.name
  | magnificationFilter => MagnificationFilter.name

/-- The type of the columns that hold its values. -/
def dataType : Datatype → DataType
  | bool => .boolean
  | utf8 => .utf8
  | vec3D => Vec3D.dataType
  | quaternion => Quaternion.dataType
  | range1D => Range1D.dataType
  | mat3x3 => Mat3x3.dataType
  | rotationAxisAngle => RotationAxisAngle.dataType
  | viewCoordinates => ViewCoordinates.dataType
  | magnificationFilter => MagnificationFilter.dataType

def elementKind (d : Datatype) : ElementKind := .ofDataType d.dataType

/-- The values that input stands for, none, one or many. -/
def ofInput : (d : Datatype) → Value → Except ConversionError (List d.Carrier)
  | bool => scalarValues "Bool" (Leaf.bool "Bool")
  | utf8 => scalarValues "Utf8" (Leaf.text "Utf8")
  | vec3D => Vec3D.ofInput
  | quaternion => Quaternion.ofInput
  | range1D => Range1D.ofInput
  | mat3x3 => Mat3x3.ofInput
  | rotationAxisAngle => RotationAxisAngle.ofInput
  | viewCoordinates => ViewCoordinates.ofInput
  | magnificationFilter => MagnificationFilter.ofInput

/-- The column of the values. -/
def toSeries : (d : Datatype) → List d.Carrier → Except ConversionError Series
  | bool => fun bs => .ok (Storage.bool.write bs)
  | utf8 => fun ss => .ok (Storage.text.write ss)
  | vec3D => Vec3D.toSeries
  | quaternion => Quaternion.toSeries
  | range1D => Range1D.toSeries
  | mat3x3 => Mat3x3.toSeries
  | rotationAxisAngle => RotationAxisAngle.toSeries
  | viewCoordinates => ViewCoordinates.toSeries
  | magnificationFilter => MagnificationFilter.toSeries

/-- The values of a column. -/
def ofSeries : (d : Datatype) → Series → Except ConversionError (List d.Carrier)
  | bool => decodeScalars .bool "Bool"
  | utf8 => decodeScalars .text "Utf8"
  | vec3D => Vec3D.ofSeries
  | quaternion => Quaternion.ofSeries
  | range1D => Range1D.ofSeries
  | mat3x3 => Mat3x3.ofSeries
  | rotationAxisAngle => RotationAxisAngle.ofSeries
  | viewCoordinates => ViewCoordinates.ofSeries
  | magnificationFilter => MagnificationFilter.ofSeries

/-- A value as input. -/
def toValue : (d : Datatype) → d.Carrier → Value
  | bool => .bool
  | utf8 => .str
  | vec3D => Vec3D.toValue
  | quaternion => Quaternion.toValue
  | range1D => Range1D.toValue
  | mat3x3 => Mat3x3.toValue
  | rotationAxisAngle => RotationAxisAngle.toValue
  | viewCoordinates => ViewCoordinates.toValue
  | magnificationFilter => MagnificationFilter.toValue

/-- Many values as input. -/
def listValue (d : Datatype) (vs : List d.Carrier) : Value := .list (vs.map d.toValue)

/-- Equality of values in which floats compare as numbers: a NaN differs from itself. -/
def sameNumber : (d : Datatype) → d.Carrier → d.Carrier → Bool
  | bool => fun a b => a = b
  | utf8 => fun a b => a = b
  | vec3D => Vec3D.sameNumber
  | quaternion => Quaternion.sameNumber
  | range1D => Range1D.sameNumber
  | mat3x3 => Mat3x3.sameNumber
  | rotationAxisAngle => RotationAxisAngle.sameNumber
  | viewCoordinates => fun a b => a = b
  | magnificationFilter => fun a b => a = b

end Datatype

end ComponentLog
