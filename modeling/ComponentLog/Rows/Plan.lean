import ComponentLog.Columnar.DataType
import ComponentLog.Error
import ComponentLog.Rows.Cut

/-!
# Partition plans

A plan gives the lengths of the rows a batch is split into, counted in component
values or in flat scalars. `PartitionPlan.infer` finds the plan of a batch from the
shape of the input it came from.

Sizes are 64-bit. What becomes of one that does not fit, and how many of them a vector
holds, is up to the machine. Functions whose names end in `On` take it as an argument;
the others stop at sizes that do not fit, and take memory to be no limit.
-/

namespace ComponentLog

open Columnar

/-! ## The machine -/

/-- What becomes of a size that does not fit the machine word. -/
inductive Arithmetic where
  /-- the computation stops -/
  | checked
  /-- its lowest 64 bits are kept -/
  | wrapping
  deriving DecidableEq, Repr

/-- How many sizes a vector holds. -/
inductive Memory where
  /-- as many as take fewer than 2^63 bytes -/
  | addressed
  | unlimited
  deriving DecidableEq, Repr

structure Machine where
  arithmetic : Arithmetic
  memory : Memory
  deriving DecidableEq, Repr

namespace Machine

/-- Stops at sizes that do not fit, and has memory for any vector. -/
def ideal : Machine := ⟨.checked, .unlimited⟩

/-- A machine with an address space. -/
def addressed (a : Arithmetic) : Machine := ⟨a, .addressed⟩

end Machine

/-! ## Plans -/

/-- What a row length counts. -/
inductive PartitionUnit where
  /-- component values -/
  | elements
  /-- flat scalars; a row must hold whole groups -/
  | flatValues
  deriving DecidableEq, Repr

structure PartitionPlan where
  lengths : List Nat
  unit : PartitionUnit
  deriving DecidableEq, Repr

namespace PartitionPlan

def elements (lengths : List Nat) : PartitionPlan := ⟨lengths, .elements⟩

def flatValues (lengths : List Nat) : PartitionPlan := ⟨lengths, .flatValues⟩

/-- One component value per row. -/
def unitRows (count : Nat) : PartitionPlan := elements (List.replicate count 1)

def rowCount (p : PartitionPlan) : Nat := p.lengths.length

def total (p : PartitionPlan) : Nat := totalLength p.lengths

/-! ## Sizes on a machine -/

/-- A size that fits the machine word. -/
def sized (n : Nat) : Except PartitionError Nat :=
  if n < UInt64.size then .ok n else .error (.fault .sizeOverflow)

/-- A size as the word holds it. -/
def word (a : Arithmetic) (n : Nat) : Except PartitionError Nat :=
  match a with
  | .checked => sized n
  | .wrapping => .ok (n % UInt64.size)

/-- The product of sizes, each step of which is held in a word. -/
def product (a : Arithmetic) (sizes : List Nat) : Except PartitionError Nat :=
  sizes.foldlM (fun acc n => word a (acc * n)) 1

/-- The remainder by a group size, which must not be zero. -/
def remainder (n groupSize : Nat) : Except PartitionError Nat :=
  if groupSize = 0 then .error (.fault .zeroGroup) else .ok (n % groupSize)

/-- So many sizes of eight bytes take 2^63 bytes. -/
def vectorLimit : Nat := 0x1000000000000000

/-- A vector of one size over and over. -/
def filled (memory : Memory) (count n : Nat) : Except PartitionError (List Nat) :=
  match memory with
  | .unlimited => .ok (List.replicate count n)
  | .addressed =>
    if count < vectorLimit then .ok (List.replicate count n)
    else .error (.fault .capacityOverflow)

/-! ## Inference -/

/-- Whether a plan with `perRow` scalars or values in every row covers a batch. -/
def covers (p : PartitionPlan) (a : Arithmetic) (perRow groupSize batchLength : Nat) :
    Except PartitionError Bool := do
  let total ← word a p.total
  match p.unit with
  | .elements => return total = batchLength
  | .flatValues =>
    if total = (← word a (batchLength * groupSize)) then
      return (← remainder perRow groupSize) = 0
    else return false

/-- One component value per row, where a vector holds the rows. -/
def unitRowsOn (memory : Memory) (count : Nat) : Except PartitionError PartitionPlan :=
  elements <$> filled memory count 1

/-- The plan of `rows` rows with `perRow` scalars each. A row whose scalars are one group is one
value, any other row holds its flat scalars. -/
def nestedRowsOn (memory : Memory) (kind : ElementKind) (rows perRow : Nat) :
    Except PartitionError PartitionPlan :=
  match kind with
  | .fixedSizeGroup size =>
    if size = perRow then unitRowsOn memory rows else flatValues <$> filled memory rows perRow
  | _ => elements <$> filled memory rows perRow

/-- Whether the input had rows: all primitive values do, and groups nested in an outer list. -/
def hasRows (kind : ElementKind) (shape : List Nat) : Bool :=
  match kind with
  | .compound => false
  | .primitive => true
  | .fixedSizeGroup _ => 2 ≤ shape.length

/-- The plan of a batch whose input had rows. The outer dimension is the row count. -/
def inferNestedOn (m : Machine) (kind : ElementKind) (shape : List Nat) (batchLength : Nat) :
    Except PartitionError PartitionPlan := do
  let perRow ← product m.arithmetic (shape.drop 1)
  let plan ← nestedRowsOn m.memory kind (shape.head?.getD 1) perRow
  if ← plan.covers m.arithmetic perRow kind.groupSize batchLength then return plan
  else throw (.unsplittableShape shape batchLength)

/-- The plan of a batch from the shape of its input. Compound values, and groups given without
rows, go one to a row. -/
def inferOn (m : Machine) (kind : ElementKind) (shape : List Nat) (batchLength : Nat) :
    Except PartitionError PartitionPlan :=
  if hasRows kind shape then inferNestedOn m kind shape batchLength
  else unitRowsOn m.memory batchLength

def infer (kind : ElementKind) (shape : List Nat) (batchLength : Nat) :
    Except PartitionError PartitionPlan :=
  inferOn .ideal kind shape batchLength

/-! ## Lengths in component values -/

/-- Row lengths in values from lengths in flat scalars; `offset` is where the first row starts. -/
def wholeGroups (a : Arithmetic) (groupSize : Nat) :
    (offset : Nat) → List Nat → Except PartitionError (List Nat)
  | _, [] => .ok []
  | offset, n :: ns => do
    let offset ← word a (offset + n)
    if (← remainder n groupSize) = 0 then
      return n / groupSize :: (← wholeGroups a groupSize offset ns)
    else throw (.splitsGroup groupSize offset)

def elementLengthsOn (p : PartitionPlan) (a : Arithmetic) (groupSize : Nat) :
    Except PartitionError (List Nat) :=
  match p.unit with
  | .elements => .ok p.lengths
  | .flatValues => wholeGroups a groupSize 0 p.lengths

/-- The row lengths in component values, for groups of the given size. -/
def elementLengths (p : PartitionPlan) (groupSize : Nat) : Except PartitionError (List Nat) :=
  p.elementLengthsOn .checked groupSize

end PartitionPlan

end ComponentLog
