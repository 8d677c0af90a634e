/-!
# Component descriptors

What a column of component data means. A field of an archetype is named by the last
part of the archetype's name, a colon and the field; the display text puts the whole
archetype name in front of what follows the first colon.
-/

namespace ComponentLog

structure ComponentDescriptor where
  archetype : Option String
  component : String
  componentType : Option String
  deriving DecidableEq, Repr

namespace ComponentDescriptor

/-- A component used on its own, outside any archetype. -/
def ofType (componentType : String) : ComponentDescriptor :=
  ⟨none, componentType, some componentType⟩

/-- The text after the last occurrence of a character, or the whole text. -/
def afterLast (c : Char) (cs : List Char) : List Char :=
  (cs.reverse.takeWhile (· ≠ c)).reverse

/-- The text after the first occurrence of a character, or the whole text. -/
def afterFirst (c : Char) (cs : List Char) : List Char :=
  match cs.dropWhile (· ≠ c) with
  | [] => cs
  | _ :: rest => rest

/-- The last part of a name made of parts with points between them. -/
def shortName (archetype : String) : String := String.ofList (afterLast '.' archetype.toList)

/-- A field of an archetype. -/
def ofField (archetype field componentType : String) : ComponentDescriptor :=
  ⟨some archetype, shortName archetype ++ ":" ++ field, some componentType⟩

/-- The name of the field within its archetype. -/
def fieldName (d : ComponentDescriptor) : String :=
  String.ofList (afterFirst ':' d.component.toList)

def display (d : ComponentDescriptor) : String :=
  match d.archetype with
  | some archetype => archetype ++ ":" ++ d.fieldName
  | none => d.component

/-- What a column's field carries besides its name and type. -/
def metadata (d : ComponentDescriptor) : List (String × String) :=
  (d.archetype.map (("archetype", ·))).toList ++ [("component", d.component)] ++
    (d.componentType.map (("component_type", ·))).toList

end ComponentDescriptor

end ComponentLog
