/-!
# Errors

What can go wrong between a mapping and a statement. An error in a mapping names its `Defect`; the
wording of each defect is fixed here once. The other two kinds are a name that no property has and
a value that a property cannot hold. A text that should spell a document and does not is reported with
the words of the parser, which are a parameter here.
-/

namespace RowMapping

/-- The classes of defects that callers tell apart. -/
inductive DefectKind where
  | noKey
  /-- The model has nothing that an update could write. -/
  | noUpdatableProperty
  /-- A partial update has nothing to write. -/
  | emptyChangeset
  /-- A source property has no counterpart on the target. -/
  | unknownProperty
  | invalidMapping
  /-- The dialect cannot address the mapped object. -/
  | unsupportedPath
  deriving DecidableEq, Repr

/-- A fault in a mapping or in the use that is made of it. -/
inductive Defect where
  | emptyTableName
  | unreachableDatabase (dialect database : String)
  | unusableName (name : String)
  | repeatedProperty (name : String)
  | repeatedColumn (column : String)
  | nothingMapped
  | noKey
  | nothingUpdatable
  | nothingChanged
  | undeclaredOnTarget (name source : String)
  deriving DecidableEq, Repr

namespace Defect

def kind : Defect → DefectKind
  | emptyTableName | unusableName _ | repeatedProperty _ | repeatedColumn _ | nothingMapped =>
      .invalidMapping
  | unreachableDatabase _ _ => .unsupportedPath
  | noKey => .noKey
  | nothingUpdatable => .noUpdatableProperty
  | nothingChanged => .emptyChangeset
  | undeclaredOnTarget _ _ => .unknownProperty

/-- The wording of a defect. -/
def message : Defect → String
  | emptyTableName => "table name is empty"
  | unreachableDatabase dialect database =>
      String.join ["dialect '", dialect, "' cannot address database '", database, "'"]
  | unusableName name =>
      String.join ["property name '", name, "' cannot be used as a parameter name"]
  | repeatedProperty name => String.join ["property '", name, "' is declared twice"]
  | repeatedColumn column => String.join ["column '", column, "' is mapped twice"]
  | nothingMapped => "no mapped properties"
  | noKey => "no key properties defined"
  | nothingUpdatable => "no properties defined that can be updated"
  | nothingChanged => "no properties changed"
  | undeclaredOnTarget name source =>
      String.join ["property '", name, "' of ", source, " is not declared on the target"]

end Defect

/-- A report of a defect. -/
structure ConfigurationError where
  kind : DefectKind
  model : Option String
  message : String
  deriving DecidableEq, Repr

/-- A name that is not a mapped or readable property. -/
structure LookupError where
  /-- The shape that was searched. -/
  model : String
  /-- The name that was sought. -/
  property : String
  deriving DecidableEq, Repr

/-- What was found in place of a value that a type can hold. -/
inductive Finding where
  /-- A value of another kind. -/
  | kind (name : String)
  /-- A text that spells no document. -/
  | unparsable (text : String)
  deriving DecidableEq, Repr

/-- A value that a type cannot hold. -/
structure ConversionError where
  expected : String
  actual : Finding
  /-- The property concerned, once it is known. -/
  property : Option String
  deriving DecidableEq, Repr

inductive Error where
  | configuration (report : ConfigurationError)
  | lookup (report : LookupError)
  | conversion (report : ConversionError)
  deriving DecidableEq, Repr

namespace ConfigurationError

/-- The wording, followed by the shape in parentheses. -/
def text (report : ConfigurationError) : String :=
  match report.model with
  | some model => String.join [report.message, " (", model, ")"]
  | none => report.message

end ConfigurationError

namespace LookupError

def text (report : LookupError) : String :=
  String.join ["property '", report.property, "' is not a mapped property of ", report.model]

end LookupError

/-- A finding in words, given what the parser says of the texts that it refuses. -/
def Finding.text (complaint : String → String) : Finding → String
  | kind name => name
  | unparsable text => String.join ["unparsable text (", complaint text, ")"]

namespace ConversionError

def text (complaint : String → String) (report : ConversionError) : String :=
  let found := report.actual.text complaint
  match report.property with
  | some property =>
      String.join ["expected ", report.expected, " for property '", property, "', found ", found]
  | none => String.join ["expected ", report.expected, ", found ", found]

/-- The report with the property named; a property that is already named stays. -/
def forProperty (report : ConversionError) (property : String) : ConversionError :=
  { report with property := some (report.property.getD property) }

end ConversionError

namespace Error

/-- The report of a defect of a shape. -/
def ofDefect (model : String) (defect : Defect) : Error :=
  .configuration ⟨defect.kind, some model, defect.message⟩

def message (complaint : String → String) : Error → String
  | configuration report => String.join ["Configuration error: ", report.text]
  | lookup report => String.join ["Lookup error: ", report.text]
  | conversion report => String.join ["Type error: ", report.text complaint]

def isConfiguration : Error → Bool
  | configuration _ => true
  | _ => false

def isLookup : Error → Bool
  | lookup _ => true
  | _ => false

/-- The class of the defect, if the error is about a mapping. -/
def defectKind? : Error → Option DefectKind
  | configuration report => some report.kind
  | _ => none

/-- Name the property in a conversion error that names none; other errors stay. -/
def forProperty (property : String) : Error → Error
  | conversion report => conversion (report.forProperty property)
  | other => other

end Error

end RowMapping
