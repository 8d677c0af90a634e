import ComponentLog.Datatype.Group

/-! # Vectors in 3D space -/

namespace ComponentLog

open Columnar Numeric

structure Vec3D where
  xyz : Vector Binary32 3
  deriving DecidableEq, Repr

namespace Vec3D

def name : String := "Vec3D"

def dataType : DataType := .groupOf .float32 3

def new (x y z : Binary32) : Vec3D := ⟨#v[x, y, z]⟩

def zero : Vec3D := new .zero .zero .zero

def one : Vec3D := new .one .one .one

def x (v : Vec3D) : Binary32 := v.xyz[0]

def y (v : Vec3D) : Binary32 := v.xyz[1]

def z (v : Vec3D) : Binary32 := v.xyz[2]

def ofInput (v : Value) : Except ConversionError (List Vec3D) :=
  (groupValues 3 name (Leaf.binary32 name) v).map (·.map mk)

def toSeries (vs : List Vec3D) : Except ConversionError Series :=
  encodeGroups .binary32 (vs.map xyz)

def ofSeries (a : Series) : Except ConversionError (List Vec3D) :=
  (decodeGroups 3 .binary32 name a).map (·.map mk)

def toValue (v : Vec3D) : Value := .list (v.xyz.toList.map .ofBinary32)

def sameNumber (v w : Vec3D) : Bool := pointwise Binary32.sameNumber v.xyz.toList w.xyz.toList

end Vec3D

end ComponentLog
