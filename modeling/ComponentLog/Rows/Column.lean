import ComponentLog.Batch
import ComponentLog.Rows.Offsets
import ComponentLog.Rows.Plan

/-!
# Component columns

A batch split into rows. The rows lie over the batch's own column of values, so the
batch comes back when the rows are dropped and can be split again. They are kept by their
offsets, from which a column's lengths are read back (`ComponentBatch.lengths_inRows`).
-/

namespace ComponentLog

open Columnar

structure ComponentColumn where
  descriptor : ComponentDescriptor
  offsets : Offsets
  /-- the values of all rows, one after the other -/
  values : Series
  kind : ElementKind

namespace ComponentColumn

/-- Number of component values in each row. -/
def lengths (c : ComponentColumn) : List Nat := c.offsets.lengths

def rowCount (c : ComponentColumn) : Nat := c.offsets.rowCount

@[simp] theorem length_lengths (c : ComponentColumn) : c.lengths.length = c.rowCount :=
  c.offsets.length_lengths

/-- The values of each row. -/
def rows (c : ComponentColumn) : List (List Cell) := cut c.lengths c.values.cells

/-- The rows as one column of lists. -/
def list (c : ComponentColumn) : Series := .list ⟨"item", true⟩ c.lengths none c.values

/-- Drops the rows. -/
def toBatch (c : ComponentColumn) : ComponentBatch := ⟨c.descriptor, c.values, c.kind⟩

end ComponentColumn

namespace ComponentBatch

/-- The values of the batch in rows of the given lengths. -/
def inRows (b : ComponentBatch) (lengths : List Nat) : ComponentColumn :=
  ⟨b.descriptor, .ofLengths lengths, b.array, b.kind⟩

@[simp] theorem lengths_inRows (b : ComponentBatch) (lengths : List Nat) :
    (b.inRows lengths).lengths = lengths := Offsets.lengths_ofLengths lengths

@[simp] theorem rowCount_inRows (b : ComponentBatch) (lengths : List Nat) :
    (b.inRows lengths).rowCount = lengths.length := by
  rw [← ComponentColumn.length_lengths, lengths_inRows]

@[simp] theorem values_inRows (b : ComponentBatch) (lengths : List Nat) :
    (b.inRows lengths).values = b.array := rfl

@[simp] theorem toBatch_inRows (b : ComponentBatch) (lengths : List Nat) :
    (b.inRows lengths).toBatch = b := rfl

/-- A column is its batch in rows of its lengths. -/
theorem inRows_lengths (c : ComponentColumn) : c.toBatch.inRows c.lengths = c := by
  obtain ⟨descriptor, offsets, values, kind⟩ := c
  simp only [inRows, ComponentColumn.toBatch, ComponentColumn.lengths, Offsets.ofLengths_lengths]

end ComponentBatch

namespace ComponentColumn

/-! ## Splitting -/

/-- The largest offset at which a row can end. -/
def maxOffset : Nat := 0x7fffffff

/-- Rows must end within the offsets and within the values. -/
def checkRows (lengths : List Nat) (length : Nat) : Except PartitionError Unit := do
  let rowEnd ← PartitionPlan.sized (totalLength lengths)
  if maxOffset < rowEnd then throw (.fault .offsetOverflow)
  if length < rowEnd then throw (.columnar (.rowsBeyondValues rowEnd length))

/-- Splits a batch by a plan that covers it exactly. -/
def ofBatchOn (a : Arithmetic) (b : ComponentBatch) (plan : PartitionPlan) :
    Except PartitionError ComponentColumn := do
  let expected ← match plan.unit with
    | .elements => pure b.length
    | .flatValues => PartitionPlan.word a b.flatLength
  let total ← PartitionPlan.word a plan.total
  if total ≠ expected then throw (.lengthMismatch expected total)
  let lengths ← plan.elementLengthsOn a b.kind.groupSize
  checkRows lengths b.length
  return b.inRows lengths

def ofBatch (b : ComponentBatch) (plan : PartitionPlan) : Except PartitionError ComponentColumn :=
  ofBatchOn .checked b plan

/-- Splits the same values anew. -/
def repartition (c : ComponentColumn) (plan : PartitionPlan) :
    Except PartitionError ComponentColumn :=
  ofBatch c.toBatch plan

/-- Splits the same values into rows of the given numbers of values. -/
def partition (c : ComponentColumn) (lengths : List Nat) :
    Except PartitionError ComponentColumn :=
  c.repartition (.elements lengths)

end ComponentColumn

namespace ComponentBatch

/-- Splits the batch by a plan. -/
def partitionedWith (b : ComponentBatch) (plan : PartitionPlan) :
    Except PartitionError ComponentColumn :=
  ComponentColumn.ofBatch b plan

/-- Splits the batch into rows of the given numbers of values. -/
def partitionedOn (a : Arithmetic) (b : ComponentBatch) (lengths : List Nat) :
    Except PartitionError ComponentColumn :=
  ComponentColumn.ofBatchOn a b (.elements lengths)

def partitioned (b : ComponentBatch) (lengths : List Nat) :
    Except PartitionError ComponentColumn :=
  b.partitionedOn .checked lengths

end ComponentBatch

/-! ## Column lists -/

/-- The columns of one archetype, one for each present field. -/
abbrev ComponentColumnList := List ComponentColumn

namespace ComponentColumnList

/-- The column of a component name such as `InstancePoses3D:scales`. -/
def named? (cs : ComponentColumnList) (component : String) : Option ComponentColumn :=
  cs.find? (·.descriptor.component = component)

/-- The row count all columns share, none without columns. -/
def rowCount? (cs : ComponentColumnList) : Except PartitionError (Option Nat) :=
  match cs with
  | [] => .ok none
  | first :: rest =>
    match rest.find? (·.rowCount ≠ first.rowCount) with
    | none => .ok (some first.rowCount)
    | some c => .error (.rowCountMismatch c.descriptor.display first.rowCount c.rowCount)

/-- Splits every column anew into rows of the given numbers of values. -/
def partition (cs : ComponentColumnList) (lengths : List Nat) :
    Except PartitionError ComponentColumnList :=
  cs.mapM (·.partition lengths)

end ComponentColumnList

end ComponentLog
