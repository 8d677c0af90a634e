import ComponentLog.Datatype.Group

/-!
# Matrices of three rows and three columns

Coefficients are stored by columns: row `r` of column `c` lies at `3 * c + r`. Input
is read by rows, whether it is flat, three rows of three, or many matrices at once.
-/

namespace ComponentLog

open Columnar Numeric

structure Mat3x3 where
  flatColumns : Vector Binary32 9
  deriving DecidableEq, Repr

namespace Mat3x3

def name : String := "Mat3x3"

def dataType : DataType := .groupOf .float32 9

/-- Nine coefficients with rows and columns exchanged. -/
def transpose (m : Vector Binary32 9) : Vector Binary32 9 :=
  .ofFn fun i => m[3 * (i.val % 3) + i.val / 3]

theorem transpose_transpose (m : Vector Binary32 9) : transpose (transpose m) = m := by
  apply Vector.ext
  intro i hi
  simp only [transpose, Vector.getElem_ofFn]
  congr 1
  omega

def identity : Mat3x3 :=
  ⟨#v[.one, .zero, .zero, .zero, .one, .zero, .zero, .zero, .one]⟩

def ofRows (rows : Vector Binary32 9) : Mat3x3 := ⟨transpose rows⟩

def flatRows (m : Mat3x3) : Vector Binary32 9 := transpose m.flatColumns

/-- The three coefficients of a column. -/
def column (m : Mat3x3) (c : Fin 3) : Vector Binary32 3 :=
  .ofFn fun r => m.flatColumns[3 * c.val + r.val]

/-- From three rows of three. -/
def ofNested (rows : Vector (Vector Binary32 3) 3) : Mat3x3 :=
  ofRows (.ofFn fun i => rows[i.val / 3][i.val % 3])

/-- Three rows of three are one matrix, which is also read as a flat list of nine. -/
def ofInput (v : Value) : Except ConversionError (List Mat3x3) :=
  let v := if v.shape = [3, 3] then .list v.leaves else v
  (groupValues 9 name (Leaf.binary32 name) v).map (·.map ofRows)

def toSeries (ms : List Mat3x3) : Except ConversionError Series :=
  encodeGroups .binary32 (ms.map flatColumns)

def ofSeries (a : Series) : Except ConversionError (List Mat3x3) :=
  (decodeGroups 9 .binary32 name a).map (·.map mk)

def toValue (m : Mat3x3) : Value := .list (m.flatRows.toList.map .ofBinary32)

def sameNumber (m k : Mat3x3) : Bool :=
  pointwise Binary32.sameNumber m.flatColumns.toList k.flatColumns.toList

end Mat3x3

end ComponentLog
