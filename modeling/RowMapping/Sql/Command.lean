import RowMapping.Sql.Renderer

/-!
# Commands

The statements of the library before they become text: a path and lists of columns, each paired
with a property name that serves as its parameter or its alias. `Command.render` writes a command
in a dialect.
-/

namespace RowMapping

/-- A statement on one object. -/
inductive Command where
  /-- Insert a row of the paired columns; the others take their defaults. -/
  | insert (path : List String) (values projection : List Pairing)
  /-- Set the paired columns of the row that the keys match. -/
  | update (path : List String) (assigned keys projection : List Pairing)
  /-- Delete the row that all pairs match. -/
  | delete (path : List String) (matched : List Pairing)
  /-- Select the row that the keys match. -/
  | select (path : List String) (projection keys : List Pairing)
  deriving DecidableEq, Repr

/-- The text of a command. Its parts are separated by single spaces. -/
def Command.render (traits : DialectTraits) : Command → String
  | insert path values projection => (Renderer.of traits path projection).insert values
  | update path assigned keys projection =>
      (Renderer.of traits path projection).update assigned keys
  | delete path matched => (Renderer.of traits path matched).delete matched
  | select path projection keys => (Renderer.of traits path projection).select projection keys

end RowMapping
