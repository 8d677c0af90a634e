import ComponentLog.ComponentType
import ComponentLog.Descriptor

/-!
# Archetypes

Fixed, ordered sets of fields, each holding the values of one component type. The
archetypes are known once for all; `all` lists them.
-/

namespace ComponentLog

inductive Archetype where
  | instancePoses3D
  | viewCoordinates
  | scalarAxis
  | viewBlueprint
  deriving DecidableEq, Repr

/-- One declared field. -/
structure FieldDescriptor where
  name : String
  componentType : ComponentType
  descriptor : ComponentDescriptor
  /-- whether an instance has a setter for it -/
  settable : Bool
  deriving DecidableEq, Repr

namespace Archetype

def all : List Archetype := [instancePoses3D, viewCoordinates, scalarAxis, viewBlueprint]

theorem mem_all (a : Archetype) : a ∈ all := by cases a <;> decide

/-- The fully-qualified name. -/
def name : Archetype → String
  | instancePoses3D => "rerun.archetypes.InstancePoses3D"
  | viewCoordinates => "rerun.archetypes.ViewCoordinates"
  | scalarAxis => "rerun.blueprint.archetypes.ScalarAxis"
  | viewBlueprint => "rerun.blueprint.archetypes.ViewBlueprint"

def displayName : Archetype → String
  | instancePoses3D => "Instance poses 3D"
  | viewCoordinates => "View coordinates"
  | scalarAxis => "Scalar axis"
  | viewBlueprint => "View blueprint"

/-- The archetype of a fully-qualified name. -/
def named? (name : String) : Option Archetype := all.find? (·.name = name)

/-- A declared field with the descriptor that its name gives it. -/
def field (a : Archetype) (name : String) (c : ComponentType) (settable : Bool) :
    FieldDescriptor :=
  ⟨name, c, .ofField a.name name c.identifier, settable⟩

/-- The declared fields in order. -/
def fields (a : Archetype) : List FieldDescriptor :=
  match a with
  | instancePoses3D =>
    [a.field "translations" .poseTranslation3D true,
      a.field "rotation_axis_angles" .poseRotationAxisAngle true,
      a.field "quaternions" .poseRotationQuat true,
      a.field "scales" .scale3D true,
      a.field "mat3x3" .poseTransformMat3x3 true]
  | viewCoordinates =>
    [a.field "xyz" .viewCoordinates true]
  | scalarAxis =>
    [a.field "range" .range1D true,
      a.field "zoom_lock" .lockRangeDuringZoom true]
  | viewBlueprint =>
    [a.field "class_identifier" .viewClass false,
      a.field "display_name" .name true,
      a.field "visible" .visible true]

/-- The place of a field. -/
abbrev FieldIndex (a : Archetype) : Type := Fin a.fields.length

/-- The place of a field by its name. -/
def fieldIndex? (a : Archetype) (name : String) : Option a.FieldIndex :=
  a.fields.findFinIdx? (·.name = name)

theorem named?_name (a : Archetype) : named? a.name = some a := by cases a <;> decide

end Archetype

end ComponentLog
