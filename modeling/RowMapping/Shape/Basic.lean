import RowMapping.Shape.Flags
import RowMapping.Value.FieldType

/-!
# Shapes and models

A shape declares properties in order. Names may repeat; every declaration is a property of its own.
A model is a shape that is mapped to a table or view.
-/

namespace RowMapping

/-- What can be done with a property through its accessor. -/
inductive Access where
  | field
  | readOnly
  | writeOnly
  deriving DecidableEq, Repr

/-- The declaration of one property. -/
structure Property where
  /-- The name, which also names its parameter. -/
  name : String
  type : FieldType
  /-- Whether it can be read and written. -/
  access : Access := .field
  /-- The column, where it is not named like the property. -/
  column : Option String := none
  /-- Its roles in statements. -/
  flags : Flags := {}
  /-- A declared position, which statements do not depend on. -/
  order : Option Int32 := none
  deriving DecidableEq, Repr

namespace Property

/-- The column that the property is mapped to. -/
def columnName (property : Property) : String := property.column.getD property.name

/-- Whether the property has a column. -/
def isMapped (property : Property) : Bool := !property.flags.notMapped

def isReadable (property : Property) : Bool := property.access != .writeOnly

def isWritable (property : Property) : Bool := property.access != .readOnly

end Property

/-- A named list of declared properties. Two shapes are the same type only if they are equal. -/
structure Shape where
  name : String
  /-- The declarations, in order. -/
  properties : List Property
  deriving DecidableEq, Repr

namespace Shape

/-- The place of a declaration. -/
abbrev Place (shape : Shape) : Type := Fin shape.properties.length

def property (shape : Shape) (place : shape.Place) : Property := shape.properties.get place

/-- Every place, in order of declaration. -/
def places (shape : Shape) : List shape.Place := List.finRange shape.properties.length

theorem map_property_places (shape : Shape) :
    shape.places.map shape.property = shape.properties := by
  apply List.ext_getElem
  · simp [places]
  · intro place _ _
    simp [places, property]

end Shape

/-- A shape mapped to a table or view. -/
structure Model extends Shape where
  /-- The table or view. -/
  table : String
  /-- The schema of the table; without one the dialect's default applies. -/
  schema : Option String := none
  /-- The database of the table; without one it is the current database. -/
  database : Option String := none
  deriving DecidableEq, Repr

end RowMapping
