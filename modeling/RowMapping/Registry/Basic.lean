import RowMapping.Catalog
import RowMapping.StatementSet

/-!
# The statement registry

Statement sets are built once and kept. A registry has one slot for every model and dialect family
that has been asked for. The first request fills the slot with the statements of the model under
the dialect of that request, or with the error; every later request gets the same, whichever dialect
of the family it names.

A request goes through three steps: it looks for its slot, enters an empty one where there is none,
and fills the slot if it is still empty.
-/

namespace RowMapping

namespace Registry

/-- What a slot is for. -/
structure Key where
  model : Model
  family : DialectFamily
  deriving DecidableEq, Repr

def keyOf (model : Model) (dialect : Dialect) : Key := ⟨model, dialect.family⟩

/-- The result of the one build for a key. -/
structure Built (key : Key) where
  /-- The dialect of the request that caused the build. -/
  dialect : Dialect
  family_dialect : dialect.family = key.family
  /-- The statements, or the reason why there are none. -/
  result : Except Error StatementSet
  result_eq : result = StatementSet.build key.model dialect

namespace Built

/-- Build the statements of a model under a dialect. -/
def of (model : Model) (dialect : Dialect) : Built (keyOf model dialect) :=
  ⟨dialect, rfl, StatementSet.build model dialect, rfl⟩

end Built

/-- A place for the result of one build. -/
abbrev Slot (key : Key) : Type := Option (Built key)

end Registry

/-- The statement sets built so far. -/
structure Registry where
  /-- The slot of every key that has been asked for. -/
  slots : Catalog Registry.Slot

namespace Registry

def empty : Registry := ⟨Catalog.empty⟩

/-- The number of keys asked for so far. -/
def size (registry : Registry) : Nat := registry.slots.size

/-- Whether a model and a dialect of the family have been asked for. -/
def contains (registry : Registry) (model : Model) (dialect : Dialect) : Bool :=
  registry.slots.contains (keyOf model dialect)

/-- The place of a key among all keys asked for; it tells one set from another. -/
def position? (registry : Registry) (model : Model) (dialect : Dialect) : Option Nat :=
  registry.slots.position? (keyOf model dialect)

/-- What a key's slot holds; a key without a slot has nothing. -/
def built? (registry : Registry) (key : Key) : Option (Built key) :=
  (registry.slots.find? key).join

/-- Give a key an empty slot, unless it has a slot. -/
def reserve (registry : Registry) (key : Key) : Registry := ⟨registry.slots.enter key none⟩

/-- Fill the slot of a model and a dialect, unless it is full. -/
def fill (registry : Registry) (model : Model) (dialect : Dialect) :
    Except Error StatementSet × Registry :=
  match registry.built? (keyOf model dialect) with
  | some built => (built.result, registry)
  | none =>
      let built := Built.of model dialect
      (built.result, ⟨registry.slots.revise (keyOf model dialect) (some built)⟩)

/-- The statements of a model under a dialect, and the registry that remembers them. -/
def request (registry : Registry) (model : Model) (dialect : Dialect) :
    Except Error StatementSet × Registry :=
  if registry.contains model dialect then registry.fill model dialect
  else (registry.reserve (keyOf model dialect)).fill model dialect

end Registry

end RowMapping
