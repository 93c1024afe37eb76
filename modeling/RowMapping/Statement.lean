import RowMapping.Shape.Accessor
import RowMapping.StatementSet

/-!
# Statements

A statement is a text together with the values of its parameters. `AccessorTable.bind` reads the
values out of a record by the names of its properties.
-/

namespace RowMapping

/-- A text ready to be executed, and its parameters in order of first appearance. -/
structure Statement where
  sql : String
  parameters : List (String × Value)
  deriving DecidableEq

namespace Statement

/-- A name without the sigil, if it has one. -/
def withoutSigil? (name : String) : Option String :=
  match name.toList with
  | '@' :: rest => some (String.ofList rest)
  | _ => none

/-- The value of a parameter, named with or without its sigil. -/
def parameter? (statement : Statement) (name : String) : Option Value :=
  let wanted := (withoutSigil? name).getD name
  (statement.parameters.find? fun parameter => withoutSigil? parameter.1 == some wanted).map
    Prod.snd

end Statement

/-- The values that a record gives to the named properties, as parameters. Every name must belong to
a readable property; of several declarations of a name, the first counts. -/
def AccessorTable.bind {shape : Shape} (table : AccessorTable shape) (record : Record shape) :
    List String → Except Error (List (String × Value))
  | [] => .ok []
  | name :: names =>
      match (table.find? name).bind fun accessor => accessor.read? record with
      | none => .error (.lookup ⟨shape.name, name⟩)
      | some value =>
          match table.bind record names with
          | .ok parameters => .ok ((parameterName name, value) :: parameters)
          | .error error => .error error

/-- A text that waits for the values of properties. -/
structure Template where
  sql : String
  /-- The properties that it binds. -/
  names : List String
  deriving DecidableEq, Repr

/-- The statement with the values that a record supplies. -/
def Template.fill {shape : Shape} (template : Template) (table : AccessorTable shape)
    (record : Record shape) : Except Error Statement :=
  (table.bind record template.names).map fun parameters => ⟨template.sql, parameters⟩

namespace StatementSet

variable (set : StatementSet)

/-- A canonical statement without its values. -/
def template (kind : StatementKind) : Except Error Template :=
  (set.text kind).map fun sql => ⟨sql, set.parameters kind⟩

/-- An insertion of the named properties without its values. -/
def insertTemplate (names : List String) : Except Error Template := do
  let sql ← set.insertPartial names
  let names ← set.insertPartialParameters names
  return ⟨sql, names⟩

/-- An update of the named properties without its values. -/
def updateTemplate (names : List String) : Except Error Template := do
  let sql ← set.updatePartial names
  let names ← set.updatePartialParameters names
  return ⟨sql, names⟩

end StatementSet

end RowMapping
