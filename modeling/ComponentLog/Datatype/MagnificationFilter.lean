import ComponentLog.Datatype.Group
import ComponentLog.Text.Case

/-!
# Magnification filters

How a texture looks beyond its own resolution. Input is a filter's name, in any
mixture of ASCII cases, or its code.
-/

namespace ComponentLog

open Columnar

inductive MagnificationFilter where
  /-- the nearest texel, which keeps pixel edges sharp -/
  | nearest
  /-- linear interpolation between neighbouring texels -/
  | linear
  deriving DecidableEq, Repr

namespace MagnificationFilter

def name : String := "MagnificationFilter"

def dataType : DataType := .uint8

def all : List MagnificationFilter := [nearest, linear]

def label : MagnificationFilter → String
  | nearest => "Nearest"
  | linear => "Linear"

def code : MagnificationFilter → UInt8
  | nearest => 1
  | linear => 2

def ofCode? : UInt8 → Option MagnificationFilter
  | 1 => some nearest
  | 2 => some linear
  | _ => none

def ofCode (code : UInt8) : Except ConversionError MagnificationFilter :=
  match ofCode? code with
  | some f => .ok f
  | none => .error (.outOfRange name code.toNat)

def ofLabel? (text : String) : Option MagnificationFilter :=
  all.find? fun f => Text.equalIgnoringCase f.label text

theorem ofCode?_code (f : MagnificationFilter) : ofCode? f.code = some f := by cases f <;> rfl

def ofLeaf (v : Value) : Except ConversionError MagnificationFilter :=
  match v with
  | .str text => match ofLabel? text with
    | some f => .ok f
    | none => .error (.unknownVariant name text)
  | v => do ofCode (← Leaf.uint8 name v)

def ofInput (v : Value) : Except ConversionError (List MagnificationFilter) :=
  scalarValues name ofLeaf v

def toSeries (fs : List MagnificationFilter) : Except ConversionError Series :=
  .ok (Storage.uint8.write (fs.map code))

def ofSeries (a : Series) : Except ConversionError (List MagnificationFilter) := do
  let codes ← decodeScalars .uint8 name a
  codes.mapM ofCode

def toValue (f : MagnificationFilter) : Value := .str f.label

end MagnificationFilter

end ComponentLog
