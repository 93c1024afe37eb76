import RowMapping.Shape.Basic
import RowMapping.Sql.Renderer
import RowMapping.Sql.ObjectPath

/-!
# Table mappings

What a model means under a dialect: the path of its table and its mapped properties with their
columns. A mapping exists only if statements can be written for it: the table has a name, the
dialect reaches its database, every property name can be a parameter, and no name and no column
occurs twice. Properties that are not mapped take no part.
-/

namespace RowMapping

/-- Whether a name can follow the sigil of a parameter: a letter or underscore, then letters, digits
and underscores, all of them ASCII. -/
def isParameterName (name : String) : Bool :=
  match name.toList with
  | [] => false
  | first :: rest =>
      (first.isAlpha || first == '_') && rest.all fun letter => letter.isAlphanum || letter == '_'

/-- A property with its column. -/
structure MappedProperty where
  name : String
  /-- The column it is mapped to. -/
  column : String
  /-- The object that has the column. -/
  object : ObjectPath
  type : FieldType
  /-- Its roles in statements. -/
  flags : Flags
  order : Option Int32
  deriving DecidableEq, Repr

namespace MappedProperty

/-- The column and the name of a mapped property. -/
def pairing (property : MappedProperty) : Pairing := ⟨property.column, property.name⟩

/-- The mapping of a declared property. -/
def ofProperty (object : ObjectPath) (property : Property) : MappedProperty :=
  { name := property.name
    column := property.columnName
    object
    type := property.type
    flags := property.flags
    order := property.order }

end MappedProperty

/-- The mapping of a model under a dialect. -/
structure TableMapping where
  model : String
  path : ObjectPath
  /-- Its mapped properties, in order of declaration. -/
  properties : List MappedProperty
  deriving DecidableEq, Repr

namespace TableMapping

/-- Continue a list of mapped properties with further declarations. -/
def mapProperties (object : ObjectPath) (mapped : List MappedProperty) :
    List Property → Except Defect (List MappedProperty)
  | [] => .ok mapped
  | property :: properties =>
      if !property.isMapped then mapProperties object mapped properties
      else if !isParameterName property.name then .error (.unusableName property.name)
      else if property.name ∈ mapped.map (·.name) then .error (.repeatedProperty property.name)
      else if property.columnName ∈ mapped.map (·.column) then
        .error (.repeatedColumn property.columnName)
      else mapProperties object (mapped ++ [.ofProperty object property]) properties

/-- The path of a model's table; a schema that is not named is the default one. -/
def pathOf (model : Model) (traits : DialectTraits) : ObjectPath :=
  { database := model.database
    schema := model.schema <|> traits.defaultSchema
    table := model.table }

/-- The mapped properties of a model, or the first defect of its mapping. -/
def propertiesOf (model : Model) (traits : DialectTraits) :
    Except Defect (List MappedProperty) :=
  if Text.isBlankText model.table then .error .emptyTableName
  else
    match model.database, traits.crossDatabase with
    | some database, false => .error (.unreachableDatabase traits.name database)
    | _, _ =>
        match mapProperties (pathOf model traits) [] model.properties with
        | .ok [] => .error .nothingMapped
        | other => other

/-- The mapping of a model under a dialect. -/
def reflect (model : Model) (dialect : Dialect) : Except Error TableMapping :=
  match propertiesOf model dialect.traits with
  | .ok properties => .ok ⟨model.name, pathOf model dialect.traits, properties⟩
  | .error defect => .error (.ofDefect model.name defect)

variable (mapping : TableMapping)

/-- The properties that identify the row. -/
def keys : List MappedProperty := mapping.properties.filter (·.flags.key)

/-- The properties that insertions and updates write. -/
def writable : List MappedProperty := mapping.properties.filter fun property =>
  !property.flags.generated

/-- Whether any property identifies the row. -/
def hasKey : Bool := !mapping.keys.isEmpty

/-- The mapped property of a name. -/
def find? (name : String) : Option MappedProperty :=
  mapping.properties.find? fun property => property.name == name

end TableMapping

end RowMapping
