import ComponentLog.Columnar.DataType

/-!
# Data types as text

A type is written with its parts in parentheses. A field is its name and type with a
colon between them, and a question mark in front of the colon if it may hold nulls.
-/

namespace ComponentLog.Columnar

def Scalar.label : Scalar → String
  | null => "Null"
  | boolean => "Boolean"
  | uint8 => "UInt8"
  | uint16 => "UInt16"
  | uint32 => "UInt32"
  | uint64 => "UInt64"
  | int8 => "Int8"
  | int16 => "Int16"
  | int32 => "Int32"
  | int64 => "Int64"
  | float16 => "Float16"
  | float32 => "Float32"
  | float64 => "Float64"
  | decimal128 => "Decimal128"
  | date32 => "Date32"
  | time64 => "Time64"
  | timestamp => "Timestamp"
  | duration => "Duration"
  | interval => "Interval"
  | utf8 => "Utf8"
  | largeUtf8 => "LargeUtf8"
  | utf8View => "Utf8View"
  | binary => "Binary"
  | largeBinary => "LargeBinary"
  | fixedBinary => "FixedSizeBinary"

namespace DataType

mutual

def describe : DataType → String
  | .scalar s => s.label
  | .fixedSizeList item size => "FixedSizeList(" ++ describeField item ++ s!";{size})"
  | .list item => "List(" ++ describeField item ++ ")"
  | .largeList item => "LargeList(" ++ describeField item ++ ")"
  | .dictionary values => "Dictionary(" ++ values.describe ++ ")"
  | .struct fields => "Struct(" ++ ",".intercalate (describeFields fields) ++ ")"

def describeField : FieldOf DataType → String
  | ⟨name, type, nullable⟩ => name ++ (if nullable then "?:" else ":") ++ type.describe

def describeFields : List (FieldOf DataType) → List String
  | [] => []
  | f :: rest => describeField f :: describeFields rest

end

end DataType

end ComponentLog.Columnar
