/-!
# Column data types

The type of a column and the fields it is made of. `ElementKind` is what the rest of
the library asks of a type: one scalar an element, a fixed group of scalars, or
anything else.
-/

namespace ComponentLog.Columnar

/-- A named part of a column. -/
structure FieldOf (type : Type) where
  name : String
  type : type
  nullable : Bool
  deriving DecidableEq, Repr

/-- Types without parts. -/
inductive Scalar where
  | null
  | boolean
  | uint8
  | uint16
  | uint32
  | uint64
  | int8
  | int16
  | int32
  | int64
  | float16
  | float32
  | float64
  | decimal128
  | date32
  | time64
  | timestamp
  | duration
  | interval
  | utf8
  | largeUtf8
  | utf8View
  | binary
  | largeBinary
  | fixedBinary
  deriving DecidableEq, Repr, Inhabited

/-- The type of a column. -/
inductive DataType where
  | scalar (s : Scalar)
  | fixedSizeList (item : FieldOf DataType) (size : Int)
  | list (item : FieldOf DataType)
  | largeList (item : FieldOf DataType)
  | dictionary (values : DataType)
  | struct (fields : List (FieldOf DataType))
  deriving Repr, Inhabited

abbrev Field := FieldOf DataType

namespace DataType

abbrev boolean : DataType := .scalar .boolean
abbrev uint8 : DataType := .scalar .uint8
abbrev int64 : DataType := .scalar .int64
abbrev float32 : DataType := .scalar .float32
abbrev float64 : DataType := .scalar .float64
abbrev utf8 : DataType := .scalar .utf8
abbrev largeUtf8 : DataType := .scalar .largeUtf8

/-! ## Equality -/

mutual

def same : DataType → DataType → Bool
  | .scalar s, .scalar t => s = t
  | .fixedSizeList f m, .fixedSizeList g n => sameField f g && m = n
  | .list f, .list g => sameField f g
  | .largeList f, .largeList g => sameField f g
  | .dictionary t, .dictionary u => same t u
  | .struct fs, .struct gs => sameFields fs gs
  | _, _ => false

def sameField : FieldOf DataType → FieldOf DataType → Bool
  | ⟨m, t, a⟩, ⟨n, u, b⟩ => m = n && same t u && a = b

def sameFields : List (FieldOf DataType) → List (FieldOf DataType) → Bool
  | [], [] => true
  | f :: fs, g :: gs => sameField f g && sameFields fs gs
  | _, _ => false

end

mutual

theorem same_iff : ∀ {t u : DataType}, same t u = true ↔ t = u
  | .scalar s, u => by cases u <;> simp [same]
  | .fixedSizeList f m, u => by cases u <;> simp [same, sameField_iff]
  | .list f, u => by cases u <;> simp [same, sameField_iff]
  | .largeList f, u => by cases u <;> simp [same, sameField_iff]
  | .dictionary t, u => by cases u <;> simp [same, same_iff]
  | .struct fs, u => by cases u <;> simp [same, sameFields_iff]

theorem sameField_iff : ∀ {f g : FieldOf DataType}, sameField f g = true ↔ f = g
  | ⟨m, t, a⟩, ⟨n, u, b⟩ => by simp [sameField, same_iff, and_assoc]

theorem sameFields_iff : ∀ {fs gs : List (FieldOf DataType)}, sameFields fs gs = true ↔ fs = gs
  | [], gs => by cases gs <;> simp [sameFields]
  | f :: fs, gs => by cases gs <;> simp [sameFields, sameField_iff, sameFields_iff]

end

instance : DecidableEq DataType := fun _ _ => decidable_of_iff _ same_iff

/-- Numbers, dates, times and spans, each stored as one machine number. -/
def isNumeric : DataType → Bool
  | .scalar s => match s with
    | .uint8 | .uint16 | .uint32 | .uint64 | .int8 | .int16 | .int32 | .int64
    | .float16 | .float32 | .float64 | .decimal128
    | .date32 | .time64 | .timestamp | .duration | .interval => true
    | .null | .boolean | .utf8 | .largeUtf8 | .utf8View | .binary | .largeBinary
    | .fixedBinary => false
  | _ => false

/-- The type of groups of `size` values without nulls. -/
def groupOf (item : DataType) (size : Nat) : DataType :=
  .fixedSizeList ⟨"item", item, false⟩ size

/-- The type of rows of values. -/
def rowsOf (item : DataType) : DataType := .list ⟨"item", item, true⟩

end DataType

/-- How the elements of a column are made of scalars. -/
inductive ElementKind where
  /-- one number, boolean or string -/
  | primitive
  /-- a fixed number of scalars -/
  | fixedSizeGroup (size : Nat)
  /-- structs and lists of any length -/
  | compound
  deriving DecidableEq, Repr

namespace ElementKind

/-- The number a signed size is read as in a 64-bit word. -/
def sizeWord (size : Int) : Nat := (size % UInt64.size).toNat

def ofDataType : DataType → ElementKind
  | .fixedSizeList _ size => fixedSizeGroup (sizeWord size)
  | .scalar .boolean | .scalar .utf8 | .scalar .largeUtf8 => primitive
  | t => if t.isNumeric then primitive else compound

/-- Flat scalars per element. -/
def groupSize : ElementKind → Nat
  | fixedSizeGroup size => size
  | primitive => 1
  | compound => 1

end ElementKind

end ComponentLog.Columnar
