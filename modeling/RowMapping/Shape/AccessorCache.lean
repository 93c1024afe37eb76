import RowMapping.Shape.Accessor

/-!
# The accessor cache

Accessor tables are reflected once per shape and kept. A cache answers every request with the
table of the requested shape; the first request for a shape makes it grow by one table.
-/

namespace RowMapping

/-- The tables reflected so far. -/
structure AccessorCache where
  /-- The table of each shape requested so far. -/
  tables : Catalog fun shape => { table : AccessorTable shape // table = .reflect shape }

namespace AccessorCache

def empty : AccessorCache := ⟨Catalog.empty⟩

/-- The number of shapes requested so far. -/
def size (cache : AccessorCache) : Nat := cache.tables.size

/-- The table of a shape, and the cache that remembers it. -/
def request (cache : AccessorCache) (shape : Shape) : AccessorTable shape × AccessorCache :=
  match cache.tables.find? shape with
  | some table => (table.val, cache)
  | none =>
      let table := AccessorTable.reflect shape
      (table, ⟨cache.tables.enter shape ⟨table, rfl⟩⟩)

/-- The accessor of a shape by name, and the cache that remembers the table. -/
def requestAccessor (cache : AccessorCache) (shape : Shape) (name : String) :
    Option (Accessor shape) × AccessorCache :=
  let (table, cache) := cache.request shape
  (table.find? name, cache)

/-- Whatever has been requested before, the answer is the table of the shape. -/
@[simp] theorem request_fst (cache : AccessorCache) (shape : Shape) :
    (cache.request shape).1 = AccessorTable.reflect shape := by
  simp only [request]
  split
  · rename_i table _
    exact table.property
  · rfl

end AccessorCache

end RowMapping
