/-!
# Property flags

The roles that a property can play in statements.
-/

namespace RowMapping

structure Flags where
  /-- The property identifies the row. -/
  key : Bool := false
  /-- The database produces the value; statements never write it. -/
  generated : Bool := false
  /-- The property has no column. -/
  notMapped : Bool := false
  deriving DecidableEq, Repr

namespace Flags

def none : Flags := {}

def union (left right : Flags) : Flags :=
  ⟨left.key || right.key, left.generated || right.generated, left.notMapped || right.notMapped⟩

/-- Whether every role of the second set is in the first. -/
def contains (flags others : Flags) : Bool :=
  (!others.key || flags.key) && (!others.generated || flags.generated) &&
    (!others.notMapped || flags.notMapped)

/-- The names of the roles, separated by bars. -/
def text (flags : Flags) : String :=
  let names := (if flags.key then ["KEY"] else []) ++
    (if flags.generated then ["DATABASE_GENERATED"] else []) ++
    (if flags.notMapped then ["NOT_MAPPED"] else [])
  if names.isEmpty then "NONE" else " | ".intercalate names

end Flags

end RowMapping
