import ComponentLog.Datatype.Group

/-! # Ranges on one axis -/

namespace ComponentLog

open Columnar Numeric

/-- An inclusive range, stored as its two ends. -/
structure Range1D where
  ends : Vector Binary64 2
  deriving DecidableEq, Repr

namespace Range1D

def name : String := "Range1D"

def dataType : DataType := .groupOf .float64 2

def new (min max : Binary64) : Range1D := ⟨#v[min, max]⟩

def zero : Range1D := new .zero .zero

def min (r : Range1D) : Binary64 := r.ends[0]

def max (r : Range1D) : Binary64 := r.ends[1]

def ofInput (v : Value) : Except ConversionError (List Range1D) :=
  (groupValues 2 name (Leaf.binary64 name) v).map (·.map mk)

def toSeries (rs : List Range1D) : Except ConversionError Series :=
  encodeGroups .binary64 (rs.map ends)

def ofSeries (a : Series) : Except ConversionError (List Range1D) :=
  (decodeGroups 2 .binary64 name a).map (·.map mk)

def toValue (r : Range1D) : Value := .list (r.ends.toList.map .float)

def sameNumber (r s : Range1D) : Bool :=
  pointwise Binary64.sameNumber r.ends.toList s.ends.toList

end Range1D

end ComponentLog
