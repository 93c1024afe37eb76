import RowMapping.Sql.Dialect

/-!
# Rendering

The texts of statements on one object. A renderer holds the two parts that all of them share, the
path of the object and the columns of the affected row, as texts of its dialect; the columns that a
statement is about are rendered for each statement.
-/

namespace RowMapping

/-- A column and the property name that goes with it. -/
structure Pairing where
  column : String
  name : String
  deriving DecidableEq, Repr

/-- The parameter of a property: its name behind the sigil. -/
def parameterName (property : String) : String := "@" ++ property

namespace Pairing

def parametersText (pairs : List Pairing) : String :=
  ", ".intercalate (pairs.map fun pair => parameterName pair.name)

def valuesText (values : List Pairing) : String :=
  if values.isEmpty then "DEFAULT VALUES"
  else String.join ["VALUES (", parametersText values, ")"]

end Pairing

namespace DialectTraits

variable (traits : DialectTraits)

/-- A path with every segment quoted. -/
def pathText (path : List String) : String := ".".intercalate (path.map traits.quote)

def columnsText (pairs : List Pairing) : String :=
  ", ".intercalate (pairs.map fun pair => traits.quote pair.column)

/-- A column set equal to its parameter. -/
def pairText (pair : Pairing) : String :=
  String.join [traits.quote pair.column, " = ", parameterName pair.name]

/-- Columns set equal to their parameters. -/
def pairsText (separator : String) (pairs : List Pairing) : String :=
  separator.intercalate (pairs.map traits.pairText)

/-- Columns of the affected row under their aliases. -/
def projectionText (pairs : List Pairing) : String :=
  ", ".intercalate <|
    pairs.map fun pair =>
      String.join [traits.outputColumn pair.column, " AS ", traits.quote pair.name]

/-- Columns of the selected row under their aliases. -/
def selectionText (pairs : List Pairing) : String :=
  ", ".intercalate <|
    pairs.map fun pair => String.join [traits.quote pair.column, " AS ", traits.quote pair.name]

/-- The condition that all pairs match. -/
def conditionText (pairs : List Pairing) : String :=
  String.join ["WHERE ", traits.pairsText " AND " pairs]

end DialectTraits

/-- The grammar of a dialect applied to one object. -/
structure Renderer where
  traits : DialectTraits
  /-- The quoted path of the object. -/
  object : String
  /-- The columns of the affected row, each under the name of its property. -/
  projection : String

namespace Renderer

/-- The renderer of an object and the columns of its rows. -/
def of (traits : DialectTraits) (path : List String) (projection : List Pairing) : Renderer :=
  ⟨traits, traits.pathText path, traits.projectionText projection⟩

variable (renderer : Renderer)

/-- The request for the affected row. -/
def output : String := String.join [renderer.traits.style.keyword, " ", renderer.projection]

/-- The object and the columns of an insertion. -/
def target (values : List Pairing) : String :=
  if values.isEmpty then renderer.object
  else String.join [renderer.object, " (", renderer.traits.columnsText values, ")"]

/-- Insert a row of the paired columns; the others take their defaults. -/
def insert (values : List Pairing) : String :=
  let target := renderer.target values
  let row := Pairing.valuesText values
  match renderer.traits.style with
  | .returning => " ".intercalate ["INSERT INTO", target, row, renderer.output]
  | .output => " ".intercalate ["INSERT INTO", target, renderer.output, row]

/-- Set the paired columns of the row that the keys match. -/
def update (assigned keys : List Pairing) : String :=
  let assignment := renderer.traits.pairsText ", " assigned
  let condition := renderer.traits.conditionText keys
  match renderer.traits.style with
  | .returning =>
      " ".intercalate ["UPDATE", renderer.object, "SET", assignment, condition, renderer.output]
  | .output =>
      " ".intercalate ["UPDATE", renderer.object, "SET", assignment, renderer.output, condition]

/-- Delete the row that all pairs match. -/
def delete (matched : List Pairing) : String :=
  " ".intercalate ["DELETE FROM", renderer.object, renderer.traits.conditionText matched]

/-- Select the row that the keys match. -/
def select (projection keys : List Pairing) : String :=
  " ".intercalate
    ["SELECT", renderer.traits.selectionText projection, "FROM", renderer.object,
      renderer.traits.conditionText keys]

end Renderer

end RowMapping
