import ComponentLog.Columnar.Series
import ComponentLog.Datatype.Leaf

/-!
# Values of a fixed number of scalars

Input for a datatype of `n` scalars is a flat list of exactly `n` items, which is one
value, or a rectangular nested list, whose leaves are taken `n` at a time. An item of
the outer list is a row, and no group spans two rows: the leaves of a row are a
multiple of `n`.

In a column the scalars of all values lie one after the other.
-/

namespace ComponentLog

open Columnar Numeric

variable {α : Type}

/-- The leaves of input that can be taken `n` at a time. -/
def groupLeaves (n : Nat) (target : String) (v : Value) :
    Except ConversionError (List Value) :=
  match v with
  | .null => .ok []
  | .list items =>
    if items.isEmpty then .ok []
    else if v.isFlatList then
      if items.length = n then .ok v.leaves
      else .error (.wrongArity target n items.length)
    else match v.rectangularShape? with
      | none => .error (.ragged target v.shape)
      | some shape =>
        let perRow := Value.shapeSize (shape.drop 1)
        if perRow % n = 0 then .ok v.leaves
        else .error (.wrongArity target n perRow)
  | v => .error (Leaf.wrongKind target "list" v)

/-- Converts input for a datatype of `n` scalars. -/
def groupValues (n : Nat) (target : String) (leaf : Value → Except ConversionError α)
    (v : Value) : Except ConversionError (List (Vector α n)) := do
  let leaves ← groupLeaves n target v
  let scalars ← leaves.mapM leaf
  return groups n scalars

/-! ## In a column -/

/-- How one kind of scalar is stored in a column. -/
structure Storage (α : Type) where
  type : DataType
  write : List α → Series
  /-- the stored values, where the column is of the right type; a null slot gives the default -/
  read? : Series → Option (List α)

namespace Storage

def binary32 : Storage Binary32 where
  type := .float32
  write xs := .float32 (xs.map some)
  read?
    | .float32 slots => some (slots.map (·.getD .zero))
    | _ => none

def binary64 : Storage Binary64 where
  type := .float64
  write xs := .float64 (xs.map some)
  read?
    | .float64 slots => some (slots.map (·.getD .zero))
    | _ => none

def uint8 : Storage UInt8 where
  type := .uint8
  write xs := .uint8 (xs.map some)
  read?
    | .uint8 slots => some (slots.map (·.getD 0))
    | _ => none

def bool : Storage Bool where
  type := .boolean
  write xs := .boolean (xs.map some)
  read?
    | .boolean slots => some (slots.map (·.getD false))
    | _ => none

def text : Storage String where
  type := .utf8
  write xs := .utf8 (xs.map some)
  read?
    | .utf8 slots => some (slots.map (·.getD ""))
    | _ => none

end Storage

/-- The error of a column of the wrong type. -/
def columnMismatch (target : String) : ConversionError :=
  .invalidType target "matching arrow array" "array of another type"

/-- A column of scalars read back. -/
def decodeScalars (storage : Storage α) (target : String) (a : Series) :
    Except ConversionError (List α) :=
  match storage.read? a with
  | some xs => .ok xs
  | none => .error (columnMismatch target)

/-- A column of groups. -/
def encodeGroups {n : Nat} (storage : Storage α) (gs : List (Vector α n)) :
    Except ConversionError Series :=
  (Series.ofGroups? ⟨"item", false⟩ n (storage.write (ungroup gs))).mapError .columnar

/-- A column of groups read back. The type of the values and the size of the groups are looked at
for each group, so a column without groups passes whatever they are. -/
def decodeGroups (n : Nat) (storage : Storage α) (target : String) (a : Series) :
    Except ConversionError (List (Vector α n)) :=
  match a with
  | .fixedSizeList _ size length _ values =>
    if length = 0 then .ok []
    else match storage.read? values with
      | none => .error (columnMismatch target)
      | some xs =>
        if size = n then .ok (takeGroups n length xs)
        else .error (.wrongArity target n size)
  | _ => .error (columnMismatch target)

/-- Numeric equality, element by element. -/
def pointwise (same : α → α → Bool) (xs ys : List α) : Bool :=
  xs.length = ys.length && (xs.zip ys).all fun (x, y) => same x y

end ComponentLog
