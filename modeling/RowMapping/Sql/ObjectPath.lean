/-!
# Object paths

The path of a table or view: its database and its schema, where they are given, and its name.
-/

namespace RowMapping

/-- The path of a table or view. -/
structure ObjectPath where
  /-- The database, if it is named. -/
  database : Option String := none
  /-- The schema, if it is named. -/
  schema : Option String := none
  /-- The name of the table or view. -/
  table : String
  deriving DecidableEq, Repr

namespace ObjectPath

/-- The segments that are given, outermost first. -/
def segments (path : ObjectPath) : List String :=
  path.database.toList ++ path.schema.toList ++ [path.table]

/-- The segments, each passed through `quote`, separated by points. -/
def qualified (quote : String → String) (path : ObjectPath) : String :=
  ".".intercalate (path.segments.map quote)

/-- The path without any quoting. -/
def text (path : ObjectPath) : String := path.qualified id

end ObjectPath

end RowMapping
