import ComponentLog.ComponentType
import ComponentLog.Descriptor

/-!
# Component batches

A descriptor with the column of that component's values: what every field of an
archetype is serialized to. An empty batch is a value too; it clears a field.
-/

namespace ComponentLog

open Columnar

structure ComponentBatch where
  descriptor : ComponentDescriptor
  array : Series
  kind : ElementKind

namespace ComponentBatch

/-- Wraps a column that must be of the component's data type. -/
def ofSeries (descriptor : ComponentDescriptor) (c : ComponentType) (array : Series) :
    Except ConversionError ComponentBatch :=
  if array.type = c.dataType then .ok ⟨descriptor, array, c.elementKind⟩
  else .error (.invalidType c.identifier "array of the component datatype" "array of another type")

/-- Converts loosely-typed input. -/
def ofInput (descriptor : ComponentDescriptor) (c : ComponentType) (v : Value) :
    Except ConversionError ComponentBatch := do
  let array ← c.convert v
  return ⟨descriptor, array, c.elementKind⟩

/-- Serializes values of the component. -/
def ofValues (descriptor : ComponentDescriptor) (c : ComponentType) (vs : List c.Carrier) :
    Except ConversionError ComponentBatch := do
  let array ← c.toSeries vs
  return ⟨descriptor, array, c.elementKind⟩

/-- A batch without values, which clears. -/
def empty (descriptor : ComponentDescriptor) (c : ComponentType) : ComponentBatch :=
  ⟨descriptor, c.emptySeries, c.elementKind⟩

/-- Number of component values. -/
def length (b : ComponentBatch) : Nat := b.array.length

def isEmpty (b : ComponentBatch) : Bool := b.array.isEmpty

/-- Number of scalars once groups are flattened. -/
def flatLength (b : ComponentBatch) : Nat := b.length * b.kind.groupSize

/-- The batch as values of a component type. -/
def values (b : ComponentBatch) (c : ComponentType) : Except ConversionError (List c.Carrier) :=
  c.ofSeries b.array

/-- The same descriptor, kind and data. -/
def sameData (a b : ComponentBatch) : Bool :=
  a.descriptor = b.descriptor && a.kind = b.kind && a.array.sameData b.array

end ComponentBatch

end ComponentLog
