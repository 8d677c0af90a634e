import ComponentLog.Columnar.Cell
import ComponentLog.Columnar.DataType
import ComponentLog.Error
import ComponentLog.Rows.Cut

/-!
# Columns of data

A `Series` is a typed column. Groups and rows are views of one flat column of
values; a null slot of a column of scalars holds no value, and reads as the default
where a reader does not ask for nulls. `cells` is the column element by element, and
two series are the same data when their types and cells agree.

The constructors that end in a question mark check what a column must satisfy;
`WellFormed` states it.
-/

namespace ComponentLog.Columnar

open Numeric

/-- A part of a column, whose type is that of its values. -/
structure Part where
  name : String
  nullable : Bool
  deriving DecidableEq, Repr

inductive Series where
  | boolean (slots : List (Option Bool))
  | uint8 (slots : List (Option UInt8))
  | int64 (slots : List (Option Int64))
  | float32 (slots : List (Option Binary32))
  | float64 (slots : List (Option Binary64))
  | utf8 (slots : List (Option String))
  | largeUtf8 (slots : List (Option String))
  /-- element `i` is the run of `size` values from `i * size` -/
  | fixedSizeList (item : Part) (size length : Nat) (validity? : Option (List Bool))
      (values : Series)
  /-- rows of the given lengths, one after the other -/
  | list (item : Part) (lengths : List Nat) (validity? : Option (List Bool)) (values : Series)
  | struct (length : Nat) (validity? : Option (List Bool)) (columns : List (Part × Series))
  /-- a column whose values the library never reads -/
  | unread (type : DataType) (validity : List Bool)
  deriving Inhabited

namespace Series

/-! ## Type and length -/

mutual

def type : Series → DataType
  | boolean _ => .boolean
  | uint8 _ => .uint8
  | int64 _ => .int64
  | float32 _ => .float32
  | float64 _ => .float64
  | utf8 _ => .utf8
  | largeUtf8 _ => .largeUtf8
  | fixedSizeList item size _ _ values => .fixedSizeList ⟨item.name, values.type, item.nullable⟩ size
  | list item _ _ values => .list ⟨item.name, values.type, item.nullable⟩
  | struct _ _ columns => .struct (columnFields columns)
  | unread type _ => type

def columnFields : List (Part × Series) → List (FieldOf DataType)
  | [] => []
  | (part, values) :: rest => ⟨part.name, values.type, part.nullable⟩ :: columnFields rest

end

/-- Number of elements. -/
def length : Series → Nat
  | boolean slots => slots.length
  | uint8 slots => slots.length
  | int64 slots => slots.length
  | float32 slots => slots.length
  | float64 slots => slots.length
  | utf8 slots => slots.length
  | largeUtf8 slots => slots.length
  | fixedSizeList _ _ length _ _ => length
  | list _ lengths _ _ => lengths.length
  | struct length _ _ => length
  | unread _ validity => validity.length

def isEmpty (a : Series) : Bool := a.length = 0

/-- Whether some element is null. -/
def hasNulls : Series → Bool
  | boolean slots => slots.any Option.isNone
  | uint8 slots => slots.any Option.isNone
  | int64 slots => slots.any Option.isNone
  | float32 slots => slots.any Option.isNone
  | float64 slots => slots.any Option.isNone
  | utf8 slots => slots.any Option.isNone
  | largeUtf8 slots => slots.any Option.isNone
  | fixedSizeList _ _ _ validity? _ => masked validity?
  | list _ _ validity? _ => masked validity?
  | struct _ validity? _ => masked validity?
  | unread _ validity => validity.any (!·)
where
  masked (validity? : Option (List Bool)) : Bool := (validity?.getD []).any (!·)

/-- A column of the type without elements. -/
def empty : DataType → Series
  | .scalar .boolean => boolean []
  | .scalar .uint8 => uint8 []
  | .scalar .int64 => int64 []
  | .scalar .float32 => float32 []
  | .scalar .float64 => float64 []
  | .scalar .utf8 => utf8 []
  | .scalar .largeUtf8 => largeUtf8 []
  | .fixedSizeList ⟨name, item, nullable⟩ size =>
    if 0 ≤ size then fixedSizeList ⟨name, nullable⟩ size.toNat 0 none (empty item)
    else unread (.fixedSizeList ⟨name, item, nullable⟩ size) []
  | .list ⟨name, item, nullable⟩ => list ⟨name, nullable⟩ [] none (empty item)
  | .struct fields => struct 0 none (emptyColumns fields)
  | t => unread t []
where
  emptyColumns : List (FieldOf DataType) → List (Part × Series)
    | [] => []
    | ⟨name, type, nullable⟩ :: rest => (⟨name, nullable⟩, empty type) :: emptyColumns rest

theorem length_empty (t : DataType) : (empty t).length = 0 := by
  cases t with
  | scalar s => cases s <;> rfl
  | fixedSizeList item size =>
    unfold empty
    split
    · rfl
    · rfl
  | list item => rfl
  | largeList item => rfl
  | dictionary values => rfl
  | struct fields => rfl

/-! ## Elements -/

/-- Puts null where the validity says so. -/
def mask (validity? : Option (List Bool)) (cells : List Cell) : List Cell :=
  match validity? with
  | none => cells
  | some validity => cells.zipWith (fun c valid => if valid then c else .null) validity

/-- The elements of a struct from the elements of its columns. -/
def records (length : Nat) (columns : List (String × List Cell)) : List Cell :=
  (List.range length).map fun i =>
    .record (columns.map fun (name, cells) => (name, cells[i]?.getD .null))

def slotCells {α : Type} (f : α → Cell) (slots : List (Option α)) : List Cell :=
  slots.map fun slot => (slot.map f).getD .null

mutual

def cells : Series → List Cell
  | boolean slots => slotCells .bool slots
  | uint8 slots => slotCells .uint8 slots
  | int64 slots => slotCells .int64 slots
  | float32 slots => slotCells .float32 slots
  | float64 slots => slotCells .float64 slots
  | utf8 slots => slotCells .text slots
  | largeUtf8 slots => slotCells .text slots
  | fixedSizeList _ size length validity? values =>
    mask validity? ((cut (List.replicate length size) values.cells).map .list)
  | list _ lengths validity? values => mask validity? ((cut lengths values.cells).map .list)
  | struct length validity? columns => mask validity? (records length (columnCells columns))
  | unread _ validity => validity.map fun _ => .null

def columnCells : List (Part × Series) → List (String × List Cell)
  | [] => []
  | (part, values) :: rest => (part.name, values.cells) :: columnCells rest

end

/-- The same data: equal types and equal elements, floats by their bits. -/
def sameData (a b : Series) : Bool := a.type = b.type && a.cells = b.cells

/-! ## What a column must satisfy -/

mutual

def WellFormed : Series → Prop
  | fixedSizeList _ size length validity? values =>
    length * size ≤ values.length ∧ (∀ v ∈ validity?, v.length = length) ∧ values.WellFormed
  | list _ lengths validity? values =>
    totalLength lengths ≤ values.length ∧ (∀ v ∈ validity?, v.length = lengths.length) ∧
      values.WellFormed
  | struct length validity? columns =>
    (∀ v ∈ validity?, v.length = length) ∧ ColumnsWellFormed length columns
  | boolean _ => True
  | uint8 _ => True
  | int64 _ => True
  | float32 _ => True
  | float64 _ => True
  | utf8 _ => True
  | largeUtf8 _ => True
  | unread _ _ => True

def ColumnsWellFormed (length : Nat) : List (Part × Series) → Prop
  | [] => True
  | (_, values) :: rest =>
    values.length = length ∧ values.WellFormed ∧ ColumnsWellFormed length rest

end

/-! ## Checked construction -/

/-- Groups of `size` values; what does not fill a group at the end stays unused. -/
def ofGroups? (item : Part) (size : Int) (values : Series) : Except ColumnarError Series :=
  if size < 0 then .error (.negativeSize size)
  else if !item.nullable && values.hasNulls then .error (.nullsInGroup item.name)
  else .ok (fixedSizeList item size.toNat (values.length / size.toNat) none values)

/-- Checks one column of a struct of the given length. -/
def checkColumn (length : Nat) (part : Part) (values : Series) : Except ColumnarError Unit :=
  if values.length ≠ length then .error (.structLength part.name length values.length)
  else if !part.nullable && values.hasNulls then .error (.nullsInStruct part.name)
  else .ok ()

/-- A struct of columns of one length. -/
def ofColumns? (columns : List (Part × Series)) : Except ColumnarError Series := do
  let length := (columns.head?.map (·.2.length)).getD 0
  columns.forM fun (part, values) => checkColumn length part values
  return struct length none columns

end Series

end ComponentLog.Columnar
