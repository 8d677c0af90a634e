import ComponentLog.Datatype

/-!
# Component types

A component type gives a datatype a stable identifier and a meaning, and leaves all
conversion to the datatype. The types are known once for all; `all` lists them.
-/

namespace ComponentLog

open Columnar

inductive ComponentType where
  | scale3D
  | poseTranslation3D
  | poseRotationQuat
  | poseRotationAxisAngle
  | poseTransformMat3x3
  | viewCoordinates
  | lockRangeDuringZoom
  | viewClass
  | visible
  | name
  | range1D
  | magnificationFilter
  deriving DecidableEq, Repr

namespace ComponentType

def all : List ComponentType :=
  [scale3D, poseTranslation3D, poseRotationQuat, poseRotationAxisAngle, poseTransformMat3x3,
    viewCoordinates, lockRangeDuringZoom, viewClass, visible, name, range1D, magnificationFilter]

theorem mem_all (c : ComponentType) : c ∈ all := by cases c <;> decide

/-- The stable identifier. -/
def identifier : ComponentType → String
  | scale3D => "rerun.components.Scale3D"
  | poseTranslation3D => "rerun.components.PoseTranslation3D"
  | poseRotationQuat => "rerun.components.PoseRotationQuat"
  | poseRotationAxisAngle => "rerun.components.PoseRotationAxisAngle"
  | poseTransformMat3x3 => "rerun.components.PoseTransformMat3x3"
  | viewCoordinates => "rerun.components.ViewCoordinates"
  | lockRangeDuringZoom => "rerun.blueprint.components.LockRangeDuringZoom"
  | viewClass => "rerun.blueprint.components.ViewClass"
  | visible => "rerun.blueprint.components.Visible"
  | name => "rerun.components.Name"
  | range1D => "rerun.components.Range1D"
  | magnificationFilter => "rerun.components.MagnificationFilter"

/-- The component type of an identifier. -/
def named? (identifier : String) : Option ComponentType :=
  all.find? (·.identifier = identifier)

def datatype : ComponentType → Datatype
  | scale3D => .vec3D
  | poseTranslation3D => .vec3D
  | poseRotationQuat => .quaternion
  | poseRotationAxisAngle => .rotationAxisAngle
  | poseTransformMat3x3 => .mat3x3
  | viewCoordinates => .viewCoordinates
  | lockRangeDuringZoom => .bool
  | viewClass => .utf8
  | visible => .bool
  | name => .utf8
  | range1D => .range1D
  | magnificationFilter => .magnificationFilter

/-- The values of a component type. -/
abbrev Carrier (c : ComponentType) : Type := c.datatype.Carrier

def dataType (c : ComponentType) : DataType := c.datatype.dataType

def elementKind (c : ComponentType) : ElementKind := .ofDataType c.dataType

def ofInput (c : ComponentType) (v : Value) : Except ConversionError (List c.Carrier) :=
  c.datatype.ofInput v

def toSeries (c : ComponentType) (vs : List c.Carrier) : Except ConversionError Series :=
  c.datatype.toSeries vs

def ofSeries (c : ComponentType) (a : Series) : Except ConversionError (List c.Carrier) :=
  c.datatype.ofSeries a

/-- Input straight to a column. -/
def convert (c : ComponentType) (v : Value) : Except ConversionError Series := do
  let vs ← c.ofInput v
  c.toSeries vs

/-- The column without elements. -/
def emptySeries (c : ComponentType) : Series := .empty c.dataType

theorem named?_identifier (c : ComponentType) : named? c.identifier = some c := by
  cases c <;> decide

end ComponentType

end ComponentLog
