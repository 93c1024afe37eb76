import RowMapping.Shape.Basic

/-!
# Records

A record holds one cell for every declaration of its shape. Putting a value into one cell leaves
all the others alone. A property that can be written reads as its own cell; a read-only one may be
computed from any of the cells.
-/

namespace RowMapping

/-- Contents of all the cells of a record, each of the type of its property. -/
abbrev Shape.Cells (shape : Shape) : Type :=
  (place : shape.Place) → (shape.property place).type.Carrier

namespace Shape.Cells

variable {shape : Shape}

/-- The cells with another content at one place. -/
def put (cells : shape.Cells) (place : shape.Place)
    (content : (shape.property place).type.Carrier) : shape.Cells :=
  fun other => if same : place = other then same ▸ content else cells other

theorem put_self (cells : shape.Cells) (place : shape.Place)
    (content : (shape.property place).type.Carrier) : put cells place content place = content := by
  simp [put]

theorem put_of_ne (cells : shape.Cells) {place other : shape.Place}
    (content : (shape.property place).type.Carrier) (different : place ≠ other) :
    put cells place content other = cells other := by
  simp [put, different]

end Shape.Cells

/-- How the properties of a record are read from its cells. -/
structure Getters (shape : Shape) where
  /-- What every property reads as. -/
  read : shape.Cells → shape.Cells
  /-- A property that can be written reads as its own cell. -/
  read_eq : ∀ cells place, (shape.property place).isWritable = true →
    read cells place = cells place

namespace Getters

variable {shape : Shape}

/-- Every property reads as its own cell. -/
def stored (shape : Shape) : Getters shape := ⟨id, fun _ _ _ => rfl⟩

end Getters

/-- A record of a shape: a value of its type for every declared property. -/
structure Record (shape : Shape) where
  /-- The content of the cell at a place. -/
  cell : shape.Cells
  getters : Getters shape := .stored shape

namespace Record

variable {shape : Shape}

/-- Two records are the same if all their cells are and they are read alike. -/
@[ext] theorem ext {left right : Record shape}
    (cells : ∀ place, left.cell place = right.cell place)
    (getters : left.getters = right.getters) : left = right := by
  cases left
  cases right
  cases getters
  exact congrArg (Record.mk · _) (funext cells)

/-- The record whose cells have not been set. -/
def blank (shape : Shape) : Record shape where
  cell place := (shape.property place).type.default

def put (record : Record shape) (place : shape.Place)
    (content : (shape.property place).type.Carrier) : Record shape :=
  { record with cell := Shape.Cells.put record.cell place content }

@[simp] theorem cell_put_self (record : Record shape) (place : shape.Place)
    (content : (shape.property place).type.Carrier) :
    (record.put place content).cell place = content :=
  Shape.Cells.put_self record.cell place content

theorem cell_put_of_ne (record : Record shape) {place other : shape.Place}
    (content : (shape.property place).type.Carrier) (different : place ≠ other) :
    (record.put place content).cell other = record.cell other :=
  Shape.Cells.put_of_ne record.cell content different

@[simp] theorem getters_put (record : Record shape) (place : shape.Place)
    (content : (shape.property place).type.Carrier) :
    (record.put place content).getters = record.getters := rfl

/-- What a property reads as. -/
def reading (record : Record shape) (place : shape.Place) :
    (shape.property place).type.Carrier :=
  record.getters.read record.cell place

theorem reading_of_isWritable (record : Record shape) {place : shape.Place}
    (isWritable : (shape.property place).isWritable = true) :
    record.reading place = record.cell place :=
  record.getters.read_eq record.cell place isWritable

theorem reading_of_stored {record : Record shape} (isStored : record.getters = .stored shape)
    (place : shape.Place) : record.reading place = record.cell place := by
  rw [reading, isStored]
  rfl

/-- The database value of a property. -/
def value (record : Record shape) (place : shape.Place) : Value :=
  (shape.property place).type.toValue (record.reading place)

/-- The names and values of all cells, in order of declaration. -/
def contents (record : Record shape) : List (String × Value) :=
  shape.places.map fun place =>
    ((shape.property place).name, (shape.property place).type.toValue (record.cell place))

end Record

end RowMapping
