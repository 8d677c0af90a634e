import ComponentLog.Archetype.Conversion
import ComponentLog.Input.Json
import ComponentLog.Rows.Column

/-!
# Archetype instances

An instance holds one optional batch for each declared field. It is made by a
builder, which collects inputs and converts them at once, or field by field with
setters.
-/

namespace ComponentLog

open Columnar

namespace Archetype

structure Instance (a : Archetype) where
  batches : Vector (Option ComponentBatch) a.fields.length

namespace Instance

variable {a : Archetype}

/-- From batches in field order; missing ones are absent. -/
def ofBatches (batches : List (Option ComponentBatch)) : Instance a :=
  ⟨.ofFn fun i => batches[i.val]?.join⟩

/-- All fields absent: logging it changes nothing. -/
def absent : Instance a := ⟨.replicate _ none⟩

/-- All fields present and empty: logging it clears them. -/
def cleared : Instance a := ⟨.ofFn fun i => some (a.fields[i.val].clear)⟩

/-- The present batches in field order. -/
def present (x : Instance a) : List ComponentBatch := x.batches.toList.filterMap id

/-- The instance with one field converted anew. -/
def set (x : Instance a) (i : a.FieldIndex) (v : Value) : Instance a × List Warning :=
  let (b?, warnings) := a.fields[i.val].convertLenient v
  (⟨x.batches.set i.val b?⟩, warnings)

/-- Equal field by field, floats by their bits. -/
def sameData (x y : Instance a) : Bool :=
  (x.batches.toList.zip y.batches.toList).all fun
    | (some b, some c) => b.sameData c
    | (none, none) => true
    | _ => false

/-- Splits every present batch into rows of the same lengths. -/
def columnsWithLengths (x : Instance a) (lengths : List Nat) :
    Except PartitionError ComponentColumnList :=
  x.present.mapM (·.partitioned lengths)

/-- One value a row, with as many rows as the first present batch has values. -/
def columnsOfUnitBatches (x : Instance a) : Except PartitionError ComponentColumnList :=
  x.columnsWithLengths (List.replicate ((x.present.head?.map (·.length)).getD 0) 1)

end Instance

/-- Inputs collected for the fields of an archetype. -/
structure Builder (a : Archetype) where
  inputs : Vector (Option Value) a.fields.length

namespace Builder

variable {a : Archetype}

def new : Builder a := ⟨.replicate _ none⟩

/-- Sets the input of a field; a later input replaces an earlier one. -/
def set (b : Builder a) (i : a.FieldIndex) (v : Value) : Builder a :=
  ⟨b.inputs.set i.val (some v)⟩

/-- Sets the input of a field given by name. -/
def withField (b : Builder a) (name : String) (v : Value) :
    Except ConversionError (Builder a) :=
  match a.fieldIndex? name with
  | some i => .ok (b.set i v)
  | none => .error (.unknownField a.name name)

/-- Sets inputs by name, in order. -/
def withFields (b : Builder a) (inputs : List (String × Value)) :
    Except ConversionError (Builder a) :=
  inputs.foldlM (fun b (name, v) => b.withField name v) b

/-- All fields converted, or the first failure. -/
def tryBuild (b : Builder a) : Except ConversionError (Instance a) :=
  (a.convertAll b.inputs.toList).map Instance.ofBatches

/-- All fields converted, or none of them and a warning. -/
def build (b : Builder a) : Instance a × List Warning :=
  match b.tryBuild with
  | .ok x => (x, [])
  | .error e => (.absent, [.degraded a.name e])

/-- Fields converted one by one. -/
def buildFields (b : Builder a) (clearUnset : Bool) : Instance a × List Warning :=
  match a.convertEach b.inputs.toList clearUnset with
  | .ok (batches, warnings) => (.ofBatches batches, warnings)
  | .error e => (.absent, [.degraded a.name e])

/-- Splits the batch of an input into the rows that the input's shape gives it. -/
def inferredColumn (b : ComponentBatch) (input : Option Value) :
    Except PartitionError ComponentColumn := do
  let shape := (input.map Value.shape).getD []
  let plan ← PartitionPlan.infer b.kind shape b.length
  b.partitionedWith plan

/-- All fields converted and split into rows. A failed conversion leaves no column and a warning;
a batch that does not split into rows is an error. -/
def columns (b : Builder a) : Except PartitionError ComponentColumnList × List Warning :=
  match a.convertAll b.inputs.toList with
  | .error e => (.ok [], [.degraded a.name e])
  | .ok batches =>
    let present := (batches.zip b.inputs.toList).filterMap fun (b?, input) =>
      b?.map (·, input)
    (present.mapM fun (batch, input) => inferredColumn batch input, [])

end Builder

/-! ## From documents -/

/-- An instance from a JSON object whose keys are field names. Unknown keys and inputs that do
not fit fail the whole instance. -/
def instanceFromJson (a : Archetype) (text : String) : Except Error (Instance a) :=
  match Value.fromJson? text with
  | none => .error .json
  | some (.map entries) =>
    (do
      let b ← Builder.withFields (Builder.new : Builder a) entries
      b.tryBuild).mapError .conversion
  | some v => .error (.conversion (.invalidType a.name "object" v.typeName))

end Archetype

end ComponentLog
