import ComponentLog.Error
import ComponentLog.Input.Value

/-!
# Leaves of input

What a single item of input gives where a datatype wants a number, a byte, a boolean
or a text, and the conversion of scalar datatypes, which take one value for each leaf
of rectangular input.
-/

namespace ComponentLog

open Numeric

namespace Leaf

/-- The error of an item of the wrong kind. -/
def wrongKind (target expected : String) (v : Value) : ConversionError :=
  .invalidType target expected v.typeName

def binary64 (target : String) (v : Value) : Except ConversionError Binary64 :=
  match v.number? with
  | some x => .ok x
  | none => .error (wrongKind target "number" v)

def binary32 (target : String) (v : Value) : Except ConversionError Binary32 :=
  (binary64 target v).map Binary64.narrow

def uint8 (target : String) (v : Value) : Except ConversionError UInt8 :=
  match v with
  | .int i =>
    if 0 ≤ i.toInt ∧ i.toInt < 256 then .ok (.ofNat i.toInt.toNat)
    else .error (.outOfRange target i.toInt)
  | v => .error (wrongKind target "integer" v)

def bool (target : String) (v : Value) : Except ConversionError Bool :=
  match v with
  | .bool b => .ok b
  | v => .error (wrongKind target "boolean" v)

def text (target : String) (v : Value) : Except ConversionError String :=
  match v with
  | .str s => .ok s
  | v => .error (wrongKind target "string" v)

end Leaf

/-- Converts input for a datatype of one scalar: nothing for null, one value for each leaf of
rectangular input. -/
def scalarValues {α : Type} (target : String) (leaf : Value → Except ConversionError α)
    (v : Value) : Except ConversionError (List α) :=
  match v with
  | .null => .ok []
  | .list _ => if v.isRectangular then v.leaves.mapM leaf else .error (.ragged target v.shape)
  | _ => (leaf v).map ([·])

end ComponentLog
