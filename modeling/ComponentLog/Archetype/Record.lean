import ComponentLog.Archetype.Instance

/-!
# The archetypes' own types

Every archetype is a record of its fields under their names, with setters and constructors
of its own on top of the shared conversion. A `Record` says how such a type goes with the
declared fields: how it is filled from batches and how it lists them, both in field order,
and at which place the field of each member is declared. What does not name a field works
on the batches listed.
-/

namespace ComponentLog

namespace Archetype

/-- A named member of an archetype's type `R`, which stands for the declared field of its name. -/
structure Member (a : Archetype) (R : Type) where
  name : String
  index : Nat
  declared : a.fields[index]?.map FieldDescriptor.name = some name
  get : R → Option ComponentBatch
  put : R → Option ComponentBatch → R

namespace Member

variable {a : Archetype} {R : Type}

theorem index_lt (m : Member a R) : m.index < a.fields.length := by
  obtain ⟨f, hf, -⟩ := Option.map_eq_some_iff.mp m.declared
  exact (List.getElem?_eq_some_iff.mp hf).1

/-- The place of the member's field. -/
def place (m : Member a R) : a.FieldIndex := ⟨m.index, m.index_lt⟩

def field (m : Member a R) : FieldDescriptor := a.fields.get m.place

theorem name_eq (m : Member a R) : m.name = m.field.name := by
  obtain ⟨f, hf, hname⟩ := Option.map_eq_some_iff.mp m.declared
  obtain ⟨_, hfield⟩ := List.getElem?_eq_some_iff.mp hf
  exact (hfield ▸ hname).symm

/-- Sets the input of the member's field. -/
def input (m : Member a R) (b : Builder a) (v : Value) : Builder a := b.set m.place v

/-- The record with the member converted anew. -/
def set (m : Member a R) (x : R) (v : Value) : R × List Warning :=
  let (b?, warnings) := m.field.convertLenient v
  (m.put x b?, warnings)

end Member

/-- An archetype's own type. -/
structure Record (a : Archetype) where
  Carrier : Type
  /-- no field present -/
  unset : Carrier
  ofBatches : List (Option ComponentBatch) → Carrier
  batches : Carrier → List (Option ComponentBatch)
  members : List (Member a Carrier)

/-! ## The four types -/

structure InstancePoses3D where
  translations : Option ComponentBatch := none
  rotationAxisAngles : Option ComponentBatch := none
  quaternions : Option ComponentBatch := none
  scales : Option ComponentBatch := none
  mat3x3 : Option ComponentBatch := none

namespace InstancePoses3D

def translationsMember : Member .instancePoses3D InstancePoses3D :=
  ⟨"translations", 0, rfl, (·.translations), ({ · with translations := · })⟩

def rotationAxisAnglesMember : Member .instancePoses3D InstancePoses3D :=
  ⟨"rotation_axis_angles", 1, rfl, (·.rotationAxisAngles),
    ({ · with rotationAxisAngles := · })⟩

def quaternionsMember : Member .instancePoses3D InstancePoses3D :=
  ⟨"quaternions", 2, rfl, (·.quaternions), ({ · with quaternions := · })⟩

def scalesMember : Member .instancePoses3D InstancePoses3D :=
  ⟨"scales", 3, rfl, (·.scales), ({ · with scales := · })⟩

def mat3x3Member : Member .instancePoses3D InstancePoses3D :=
  ⟨"mat3x3", 4, rfl, (·.mat3x3), ({ · with mat3x3 := · })⟩

def record : Record .instancePoses3D where
  Carrier := InstancePoses3D
  unset := {}
  ofBatches batches :=
    ⟨batches[0]?.join, batches[1]?.join, batches[2]?.join, batches[3]?.join, batches[4]?.join⟩
  batches x := [x.translations, x.rotationAxisAngles, x.quaternions, x.scales, x.mat3x3]
  members :=
    [translationsMember, rotationAxisAnglesMember, quaternionsMember, scalesMember, mat3x3Member]

end InstancePoses3D

structure ViewCoordinates where
  xyz : Option ComponentBatch := none

namespace ViewCoordinates

def xyzMember : Member .viewCoordinates ViewCoordinates :=
  ⟨"xyz", 0, rfl, (·.xyz), ({ · with xyz := · })⟩

def record : Record .viewCoordinates where
  Carrier := ViewCoordinates
  unset := {}
  ofBatches batches := ⟨batches[0]?.join⟩
  batches x := [x.xyz]
  members := [xyzMember]

end ViewCoordinates

structure ScalarAxis where
  range : Option ComponentBatch := none
  zoomLock : Option ComponentBatch := none

namespace ScalarAxis

def rangeMember : Member .scalarAxis ScalarAxis :=
  ⟨"range", 0, rfl, (·.range), ({ · with range := · })⟩

def zoomLockMember : Member .scalarAxis ScalarAxis :=
  ⟨"zoom_lock", 1, rfl, (·.zoomLock), ({ · with zoomLock := · })⟩

def record : Record .scalarAxis where
  Carrier := ScalarAxis
  unset := {}
  ofBatches batches := ⟨batches[0]?.join, batches[1]?.join⟩
  batches x := [x.range, x.zoomLock]
  members := [rangeMember, zoomLockMember]

end ScalarAxis

structure ViewBlueprint where
  classIdentifier : Option ComponentBatch := none
  displayName : Option ComponentBatch := none
  visible : Option ComponentBatch := none

namespace ViewBlueprint

def classIdentifierMember : Member .viewBlueprint ViewBlueprint :=
  ⟨"class_identifier", 0, rfl, (·.classIdentifier), ({ · with classIdentifier := · })⟩

def displayNameMember : Member .viewBlueprint ViewBlueprint :=
  ⟨"display_name", 1, rfl, (·.displayName), ({ · with displayName := · })⟩

def visibleMember : Member .viewBlueprint ViewBlueprint :=
  ⟨"visible", 2, rfl, (·.visible), ({ · with visible := · })⟩

def record : Record .viewBlueprint where
  Carrier := ViewBlueprint
  unset := {}
  ofBatches batches := ⟨batches[0]?.join, batches[1]?.join, batches[2]?.join⟩
  batches x := [x.classIdentifier, x.displayName, x.visible]
  members := [classIdentifierMember, displayNameMember, visibleMember]

end ViewBlueprint

def record : (a : Archetype) → Record a
  | .instancePoses3D => InstancePoses3D.record
  | .viewCoordinates => ViewCoordinates.record
  | .scalarAxis => ScalarAxis.record
  | .viewBlueprint => ViewBlueprint.record

/-- The values of an archetype's own type. -/
abbrev Own (a : Archetype) : Type := a.record.Carrier

/-- The member of a name. -/
def member? (a : Archetype) (name : String) : Option (Member a a.Own) :=
  a.record.members.find? (·.name = name)

/-- The member of a name that has a setter. -/
def setter? (a : Archetype) (name : String) : Option (Member a a.Own) :=
  a.record.members.find? fun m => m.name = name && m.field.settable

namespace Own

variable {a : Archetype}

def ofInstance (x : Instance a) : a.Own := a.record.ofBatches x.batches.toList

def toInstance (x : a.Own) : Instance a := .ofBatches (a.record.batches x)

/-- What a member of a name holds. -/
def get? (x : a.Own) (name : String) : Option ComponentBatch := (a.member? name).bind (·.get x)

def cleared : a.Own := ofInstance .cleared

def absent : a.Own := ofInstance .absent

def tryBuild (b : Builder a) : Except ConversionError a.Own := b.tryBuild.map ofInstance

def build (b : Builder a) : a.Own × List Warning := (ofInstance b.build.1, b.build.2)

def buildFields (b : Builder a) (clearUnset : Bool) : a.Own × List Warning :=
  (ofInstance (b.buildFields clearUnset).1, (b.buildFields clearUnset).2)

/-- Applies setters in order. -/
def setAll (x : a.Own) : List (Member a a.Own × Value) → a.Own × List Warning
  | [] => (x, [])
  | (m, v) :: rest =>
    let (x, warnings) := m.set x v
    let (x, more) := setAll x rest
    (x, warnings ++ more)

end Own

/-! ## Constructors -/

/-- From a JSON object whose keys are field names. -/
def ofJson (a : Archetype) (text : String) : Except Error a.Own :=
  (a.instanceFromJson text).map Own.ofInstance

def InstancePoses3D.new : Own .instancePoses3D := InstancePoses3D.record.unset

def ScalarAxis.new : Own .scalarAxis := ScalarAxis.record.unset

namespace ViewCoordinates

def new (xyz : Value) : Own .viewCoordinates × List Warning :=
  Own.build (xyzMember.input .new xyz)

def tryNew (xyz : Value) : Except ConversionError (Own .viewCoordinates) :=
  Own.tryBuild (xyzMember.input .new xyz)

/-- A partial update; a missing input clears if asked for. -/
def ofFields (clearUnset : Bool) (xyz : Option Value) : Own .viewCoordinates × List Warning :=
  let b := match xyz with
    | some v => xyzMember.input .new v
    | none => .new
  Own.buildFields b clearUnset

def columns (xyz : Value) : Except PartitionError ComponentColumnList × List Warning :=
  (xyzMember.input .new xyz).columns

end ViewCoordinates

namespace ViewBlueprint

def new (classIdentifier : Value) : Own .viewBlueprint × List Warning :=
  Own.build (classIdentifierMember.input .new classIdentifier)

def tryNew (classIdentifier : Value) : Except ConversionError (Own .viewBlueprint) :=
  Own.tryBuild (classIdentifierMember.input .new classIdentifier)

end ViewBlueprint

end Archetype

end ComponentLog
