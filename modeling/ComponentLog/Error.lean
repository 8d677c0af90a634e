import ComponentLog.Text.Quoted

/-!
# What can go wrong

Three families of failure cross the public functions: input that does not fit a
component (`ConversionError`), a plan that does not fit a batch (`PartitionError`),
and a sink that does not take a chunk (`TransportError`). Each constructor is a
cause; `message` words it.

A `Fault` is a request that the machine cannot carry out: a size beyond 64 bits, a vector
beyond the address space, a remainder by zero, an offset beyond 31 bits, a column that is
not there.
-/

namespace ComponentLog

open Text

/-- A list of sizes as messages show it, such as `[3, 3]`. -/
def sizesText (sizes : List Nat) : String :=
  "[" ++ ", ".intercalate (sizes.map toString) ++ "]"

/-- A request beyond what the machine carries. -/
inductive Fault where
  | sizeOverflow
  | capacityOverflow
  | zeroGroup
  | offsetOverflow
  | missingColumn (index : Nat)
  deriving DecidableEq, Repr

def Fault.message : Fault → String
  | sizeOverflow => "size overflow"
  | capacityOverflow => "capacity overflow"
  | zeroGroup => "remainder by a group of no scalars"
  | offsetOverflow => "row offset overflow"
  | missingColumn index => s!"no column at index {index}"

/-- Parts that do not make up a column or a record batch. -/
inductive ColumnarError where
  | negativeSize (size : Int)
  | nullsInGroup (field : String)
  | nullsInStruct (field : String)
  | structLength (field : String) (expected actual : Nat)
  | rowsBeyondValues (rowEnd length : Nat)
  | columnCount (columns fields : Nat)
  | columnType (index : Nat)
  | columnNulls (field : String)
  | columnRows
  | compute (reason : String)
  deriving DecidableEq, Repr

def ColumnarError.message : ColumnarError → String
  | negativeSize size => s!"Invalid argument error: Size cannot be negative, got {size}"
  | nullsInGroup field =>
    s!"Invalid argument error: Found unmasked nulls for non-nullable FixedSizeListArray field {quoted field}"
  | nullsInStruct field =>
    s!"Invalid argument error: Found unmasked nulls for non-nullable StructArray field {quoted field}"
  | structLength field expected actual =>
    s!"Invalid argument error: Incorrect array length for StructArray field {quoted field}, expected {expected} got {actual}"
  | rowsBeyondValues rowEnd length =>
    s!"Invalid argument error: Max offset of {rowEnd} exceeds length of values {length}"
  | columnCount columns fields =>
    s!"Invalid argument error: number of columns({columns}) must match number of fields({fields}) in schema"
  | columnType index =>
    s!"Invalid argument error: column types must match schema types at column index {index}"
  | columnNulls field =>
    s!"Invalid argument error: Column '{field}' is declared as non-nullable but contains null values"
  | columnRows =>
    "Invalid argument error: all columns in a record batch must have the specified row count"
  | compute reason => s!"Compute error: {reason}"

/-- Input that could not be turned into component values. -/
inductive ConversionError where
  /-- a value of fixed size was given the wrong number of elements -/
  | wrongArity (target : String) (expected actual : Nat)
  /-- nested lists of different shapes -/
  | ragged (target : String) (shape : List Nat)
  /-- a value of the wrong kind -/
  | invalidType (target expected found : String)
  /-- an integer that is no code of the target -/
  | outOfRange (target : String) (value : Int)
  /-- a map without a key that is needed -/
  | missingField (target field : String)
  /-- a name that is not known -/
  | unknownVariant (target name : String)
  /-- a field that the archetype does not declare -/
  | unknownField (archetype field : String)
  /-- positional inputs that do not match the declared fields -/
  | fieldCount (archetype : String) (expected actual : Nat)
  /-- a failure attributed to one field -/
  | inField (field : String) (cause : ConversionError)
  | columnar (cause : ColumnarError)
  | fault (cause : Fault)
  deriving DecidableEq, Repr

def ConversionError.message : ConversionError → String
  | wrongArity target expected actual => s!"{target}: expected {expected} elements, got {actual}"
  | ragged target shape => s!"{target}: ragged nested input with shape {sizesText shape}"
  | invalidType target expected found => s!"{target}: cannot convert {found} to {expected}"
  | outOfRange target value => s!"{target}: value {value} is out of range"
  | missingField target field => s!"{target}: missing field {quoted field}"
  | unknownVariant target name => s!"{target}: unknown variant {quoted name}"
  | unknownField archetype field => s!"{archetype}: unknown field {quoted field}"
  | fieldCount archetype expected actual =>
    s!"{archetype}: expected {expected} field inputs, got {actual}"
  | inField field cause => s!"field {field}: {cause.message}"
  | columnar cause => s!"arrow error: {cause.message}"
  | fault cause => cause.message

/-- A plan that does not fit the batch it is applied to. -/
inductive PartitionError where
  | lengthMismatch (expected actual : Nat)
  /-- the outer dimension does not split the batch into rows of whole values -/
  | unsplittableShape (shape : List Nat) (batchLength : Nat)
  /-- a row ends inside a group -/
  | splitsGroup (groupSize offset : Nat)
  /-- columns sent together differ in their number of rows -/
  | rowCountMismatch (name : String) (expected actual : Nat)
  | columnar (cause : ColumnarError)
  | fault (cause : Fault)
  deriving DecidableEq, Repr

def PartitionError.message : PartitionError → String
  | lengthMismatch expected actual =>
    s!"partition lengths sum to {actual}, but the batch holds {expected}"
  | unsplittableShape shape batchLength =>
    s!"input of shape {sizesText shape} does not split a batch of {batchLength} into rows"
  | splitsGroup groupSize offset =>
    s!"row boundary at flat offset {offset} splits a group of {groupSize}"
  | rowCountMismatch name expected actual => s!"{name} has {actual} rows, expected {expected}"
  | columnar cause => s!"arrow error: {cause.message}"
  | fault cause => cause.message

/-- A sink that did not take a chunk. -/
inductive TransportError where
  | io (reason : String)
  | columnar (cause : ColumnarError)
  /-- refused for a reason of the sink's own -/
  | rejected (reason : String)
  deriving DecidableEq, Repr

def TransportError.message : TransportError → String
  | io reason => s!"I/O error: {reason}"
  | columnar cause => s!"arrow error: {cause.message}"
  | rejected reason => s!"sink rejected chunk: {reason}"

/-- Why a text is no entity path. -/
inductive PathFlaw where
  | empty
  | emptySegment
  deriving DecidableEq, Repr

def PathFlaw.message : PathFlaw → String
  | empty => "path is empty"
  | emptySegment => "empty path segment"

/-- Any failure of the library. -/
inductive Error where
  | conversion (cause : ConversionError)
  | partition (cause : PartitionError)
  | transport (cause : TransportError)
  | invalidEntityPath (path : String) (flaw : PathFlaw)
  /-- a text that is no JSON document of the wanted form -/
  | json
  deriving DecidableEq, Repr

def Error.message : Error → String
  | conversion cause => cause.message
  | partition cause => cause.message
  | transport cause => cause.message
  | invalidEntityPath path flaw => s!"invalid entity path {quoted path}: {flaw.message}"
  | json => "JSON decode error"

end ComponentLog
