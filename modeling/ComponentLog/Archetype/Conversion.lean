import ComponentLog.Archetype
import ComponentLog.Batch

/-!
# Converting the fields of an archetype

Null means that a field is absent, which changes nothing; an empty batch clears the
field. `convertAll` fails with the first field that fails; `convertEach` converts
fields on their own and leaves the failing ones absent with a warning.
-/

namespace ComponentLog

/-- A failure that was not handed to the caller. -/
inductive Warning where
  /-- some field failed, so all fields were left absent -/
  | degraded (archetype : String) (cause : ConversionError)
  /-- one field failed and was left absent -/
  | fieldAbsent (descriptor : ComponentDescriptor) (cause : ConversionError)
  deriving DecidableEq, Repr

namespace FieldDescriptor

/-- Converts the input of a field; a failure names the field. -/
def convert (f : FieldDescriptor) (v : Value) :
    Except ConversionError (Option ComponentBatch) :=
  if v.isNull then .ok none
  else match ComponentBatch.ofInput f.descriptor f.componentType v with
    | .ok b => .ok (some b)
    | .error e => .error (.inField f.name e)

/-- Converts the input of a field, turning a failure into a warning. -/
def convertLenient (f : FieldDescriptor) (v : Value) : Option ComponentBatch × List Warning :=
  match f.convert v with
  | .ok b? => (b?, [])
  | .error e => (none, [.fieldAbsent f.descriptor e])

/-- The batch that clears the field. -/
def clear (f : FieldDescriptor) : ComponentBatch := .empty f.descriptor f.componentType

/-- Whether an input leaves its field unset. -/
def isUnset (input : Option Value) : Bool := input.all Value.isNull

/-- Converts an optional input. -/
def convertInput (f : FieldDescriptor) (input : Option Value) :
    Except ConversionError (Option ComponentBatch) :=
  match input with
  | some v => f.convert v
  | none => .ok none

/-- Converts an optional input on its own; an unset field is cleared if asked for. -/
def convertPartial (f : FieldDescriptor) (clearUnset : Bool) (input : Option Value) :
    Option ComponentBatch × List Warning :=
  if isUnset input then (if clearUnset then some f.clear else none, [])
  else f.convertLenient (input.getD .null)

end FieldDescriptor

namespace Archetype

/-- Positional inputs must match the declared fields in number. -/
def checkFieldCount (a : Archetype) (inputs : List (Option Value)) :
    Except ConversionError Unit :=
  if inputs.length = a.fields.length then .ok ()
  else .error (.fieldCount a.name a.fields.length inputs.length)

/-- Converts every field; the first failure fails them all. -/
def convertAll (a : Archetype) (inputs : List (Option Value)) :
    Except ConversionError (List (Option ComponentBatch)) := do
  a.checkFieldCount inputs
  (a.fields.zip inputs).mapM fun (f, input) => f.convertInput input

/-- Converts every field on its own. -/
def convertEach (a : Archetype) (inputs : List (Option Value)) (clearUnset : Bool) :
    Except ConversionError (List (Option ComponentBatch) × List Warning) := do
  a.checkFieldCount inputs
  let results := a.fields.zipWith (fun f input => f.convertPartial clearUnset input) inputs
  return (results.map (·.1), results.flatMap (·.2))

end Archetype

end ComponentLog
