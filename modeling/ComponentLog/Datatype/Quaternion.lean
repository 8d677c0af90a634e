import ComponentLog.Datatype.Group

/-! # Quaternions -/

namespace ComponentLog

open Columnar Numeric

/-- A rotation, stored as `x, y, z, w`. -/
structure Quaternion where
  xyzw : Vector Binary32 4
  deriving DecidableEq, Repr

namespace Quaternion

def name : String := "Quaternion"

def dataType : DataType := .groupOf .float32 4

def identity : Quaternion := ⟨#v[.zero, .zero, .zero, .one]⟩

/-- From the order with the real part first. -/
def ofWxyz (q : Vector Binary32 4) : Quaternion := ⟨#v[q[1], q[2], q[3], q[0]]⟩

def ofInput (v : Value) : Except ConversionError (List Quaternion) :=
  (groupValues 4 name (Leaf.binary32 name) v).map (·.map mk)

def toSeries (qs : List Quaternion) : Except ConversionError Series :=
  encodeGroups .binary32 (qs.map xyzw)

def ofSeries (a : Series) : Except ConversionError (List Quaternion) :=
  (decodeGroups 4 .binary32 name a).map (·.map mk)

def toValue (q : Quaternion) : Value := .list (q.xyzw.toList.map .ofBinary32)

def sameNumber (p q : Quaternion) : Bool :=
  pointwise Binary32.sameNumber p.xyzw.toList q.xyzw.toList

end Quaternion

end ComponentLog
