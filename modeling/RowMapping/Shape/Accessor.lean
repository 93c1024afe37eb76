import RowMapping.Catalog
import RowMapping.Shape.Record

/-!
# Accessors

An accessor reads one declared property and writes its cell, as far as its declaration allows. The
accessor table of a shape lists an accessor for every declaration, not-mapped and repeated ones
included, and finds accessors by name: of several declarations of one name, the first.
-/

namespace RowMapping

/-- Access to one declared property of a shape. -/
structure Accessor (shape : Shape) where
  place : shape.Place
  deriving DecidableEq, Repr

namespace Accessor

variable {shape : Shape}

/-- The declaration behind the accessor. -/
def property (accessor : Accessor shape) : Property := shape.property accessor.place

def name (accessor : Accessor shape) : String := accessor.property.name

/-- The database value of the property while it has not been set. -/
def zero (accessor : Accessor shape) : Value := accessor.property.type.zero

/-- The value of the property in a record, if it can be read. -/
def read? (accessor : Accessor shape) (record : Record shape) : Option Value :=
  if accessor.property.isReadable then some (record.value accessor.place) else none

/-- The record after writing a value into the property. There is none if the property cannot be
written; a value that does not convert is an error that names the property. -/
def write (accessor : Accessor shape) (record : Record shape) (value : Value) :
    Except Error (Option (Record shape)) :=
  if accessor.property.isWritable then
    match (shape.property accessor.place).type.ofValue value with
    | .ok content => .ok (some (record.put accessor.place content))
    | .error report => .error (.conversion (report.forProperty accessor.name))
  else .ok none

end Accessor

/-- The accessors of a shape. -/
structure AccessorTable (shape : Shape) where
  /-- One accessor for every declaration, in order. -/
  accessors : List (Accessor shape)
  /-- The accessors that can be found by name. -/
  index : Catalog fun _ : String => Accessor shape

namespace AccessorTable

variable {shape : Shape}

/-- Accessors entered under their names, one after the other. -/
def indexOf (accessors : List (Accessor shape)) : Catalog fun _ : String => Accessor shape :=
  accessors.foldl (fun index accessor => index.enter accessor.name accessor) Catalog.empty

def reflect (shape : Shape) : AccessorTable shape :=
  let accessors := shape.places.map Accessor.mk
  ⟨accessors, indexOf accessors⟩

/-- The accessor of a name. -/
def find? (table : AccessorTable shape) (name : String) : Option (Accessor shape) :=
  table.index.find? name

def size (table : AccessorTable shape) : Nat := table.accessors.length

theorem find?_foldl_enter (accessors : List (Accessor shape))
    (index : Catalog fun _ : String => Accessor shape) (name : String) :
    (accessors.foldl (fun index accessor => index.enter accessor.name accessor) index).find? name =
      (index.find? name).or (accessors.find? fun accessor => accessor.name == name) := by
  induction accessors generalizing index with
  | nil => simp
  | cons accessor accessors induction =>
      rw [List.foldl_cons, induction, List.find?_cons]
      by_cases same : accessor.name = name
      · subst same
        rw [Catalog.find?_enter_self]
        cases index.find? accessor.name <;> simp
      · have differs : (accessor.name == name) = false := by simp [same]
        rw [Catalog.find?_enter_of_ne same, differs]

theorem find?_indexOf (accessors : List (Accessor shape)) (name : String) :
    (indexOf accessors).find? name = accessors.find? fun accessor => accessor.name == name := by
  simp [indexOf, find?_foldl_enter]

end AccessorTable

end RowMapping
