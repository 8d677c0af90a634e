import ComponentLog.EntityPath
import ComponentLog.Rows.Column

/-!
# Chunks

The unit handed to a sink: an entity path, any number of time columns, and one column
of rows for each component, all with the same number of rows. Without time columns
the data holds for all times.

A chunk is written out as a `RecordBatch`: the time columns, then the columns of rows,
with the descriptors as field metadata and the path as metadata of the whole.
-/

namespace ComponentLog

open Columnar

/-- How the numbers of a timeline are read. -/
inductive TimeKind where
  /-- ordinal steps such as frame numbers -/
  | sequence
  /-- nanoseconds since the start of 1970 -/
  | timestampNanos
  deriving DecidableEq, Repr

def TimeKind.label : TimeKind → String
  | sequence => "sequence"
  | timestampNanos => "timestamp_nanos"

/-- One time a row, on a named timeline. -/
structure TimeColumn where
  timeline : String
  kind : TimeKind
  times : List Int64
  deriving DecidableEq, Repr

namespace TimeColumn

def length (t : TimeColumn) : Nat := t.times.length

def isEmpty (t : TimeColumn) : Bool := t.times.isEmpty

end TimeColumn

/-! ## Record batches -/

/-- A field with what is said about it. -/
structure ColumnField where
  field : Field
  metadata : List (String × String)
  deriving DecidableEq

structure RecordBatch where
  fields : List ColumnField
  columns : List Series
  rowCount : Nat
  metadata : List (String × String)

namespace RecordBatch

/-- A column must have its field's type, no nulls unless the field allows them, and as many
elements as the batch has rows. -/
def checkColumn (rowCount index : Nat) (f : ColumnField) (a : Series) :
    Except ColumnarError Unit :=
  if a.length ≠ rowCount then .error .columnRows
  else if a.type ≠ f.field.type then .error (.columnType index)
  else if !f.field.nullable && a.hasNulls then .error (.columnNulls f.field.name)
  else .ok ()

/-- A batch of columns that match their fields. -/
def ofColumns (fields : List ColumnField) (columns : List Series) (rowCount : Nat)
    (metadata : List (String × String)) : Except ColumnarError RecordBatch := do
  if columns.length ≠ fields.length then
    throw (.columnCount columns.length fields.length)
  (fields.zip columns).zipIdx.forM fun ((f, a), index) => checkColumn rowCount index f a
  return { fields, columns, rowCount, metadata }

end RecordBatch

/-! ## Chunks -/

structure Chunk where
  path : EntityPath
  timelines : List TimeColumn
  components : List ComponentColumn

namespace Chunk

/-- The name and the number of rows of every column, time columns first. -/
def rowCounts (timelines : List TimeColumn) (components : List ComponentColumn) :
    List (String × Nat) :=
  timelines.map (fun t => (t.timeline, t.length)) ++
    components.map fun c => (c.descriptor.display, c.rowCount)

/-- The number of rows of the first component, or else of the first timeline. -/
def firstRowCount? (timelines : List TimeColumn) (components : List ComponentColumn) :
    Option Nat :=
  (components.head?.map (·.rowCount)).or (timelines.head?.map (·.length))

/-- A chunk of columns of one length. -/
def ofParts (path : EntityPath) (timelines : List TimeColumn) (components : List ComponentColumn) :
    Except PartitionError Chunk :=
  match firstRowCount? timelines components with
  | none => .ok ⟨path, timelines, components⟩
  | some expected =>
    match (rowCounts timelines components).find? (·.2 ≠ expected) with
    | some (name, actual) => .error (.rowCountMismatch name expected actual)
    | none => .ok ⟨path, timelines, components⟩

/-- A chunk of one row, which holds all values of each batch. -/
def ofBatches (path : EntityPath) (timelines : List TimeColumn) (batches : List ComponentBatch) :
    Except PartitionError Chunk := do
  let components ← batches.mapM fun b => b.partitioned [b.length]
  ofParts path timelines components

def isStatic (c : Chunk) : Bool := c.timelines.isEmpty

def rowCount (c : Chunk) : Nat := (firstRowCount? c.timelines c.components).getD 0

/-- The field of a time column. -/
def timeField (t : TimeColumn) : ColumnField :=
  ⟨⟨t.timeline, .int64, false⟩, [("time_kind", t.kind.label)]⟩

/-- The field of a column of rows. -/
def componentField (c : ComponentColumn) : ColumnField :=
  ⟨⟨c.descriptor.component, .rowsOf c.values.type, false⟩, c.descriptor.metadata⟩

def toRecordBatch (c : Chunk) : Except ColumnarError RecordBatch :=
  RecordBatch.ofColumns
    (c.timelines.map timeField ++ c.components.map componentField)
    (c.timelines.map (fun t => .int64 (t.times.map some)) ++ c.components.map (·.list))
    c.rowCount
    [("entity_path", c.path.display)]

end Chunk

/-! ## Straight to a record batch -/

/-- One static row of batches. -/
def recordBatchOf (path : String) (batches : List ComponentBatch) : Except Error RecordBatch := do
  let path ← EntityPath.parse path
  let chunk ← (Chunk.ofBatches path [] batches).mapError .partition
  chunk.toRecordBatch.mapError fun e => .transport (.columnar e)

/-- Many rows of columns with their times. -/
def recordBatchOfColumns (path : String) (timelines : List TimeColumn)
    (columns : ComponentColumnList) : Except Error RecordBatch := do
  let path ← EntityPath.parse path
  let chunk ← (Chunk.ofParts path timelines columns).mapError .partition
  chunk.toRecordBatch.mapError fun e => .transport (.columnar e)

end ComponentLog
