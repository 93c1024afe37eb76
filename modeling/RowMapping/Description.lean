import RowMapping.Text.Quoted
import RowMapping.Workspace

/-!
# Descriptions

Texts that describe the values of the library to a developer. A value is described by the name of
its kind and its labelled parts; two dots at the end say that parts have been left out.
-/

namespace RowMapping

namespace Description

/-- A labelled part. -/
def part (label content : String) : String := label ++ ": " ++ content

/-- A name with its labelled parts. -/
def parts (name : String) (parts : List String) : String :=
  name ++ " \x7b " ++ ", ".intercalate parts ++ " \x7d"

/-- A part that may be missing. -/
def option : Option String → String
  | none => "None"
  | some content => "Some(" ++ content ++ ")"

def truth : Bool → String
  | true => "true"
  | false => "false"

def list (items : List String) : String := "[" ++ ", ".intercalate items ++ "]"

end Description

open Description Text

/-- The class of a defect by name. -/
def DefectKind.describe : DefectKind → String
  | noKey => "NoKey"
  | noUpdatableProperty => "NoUpdatableProperty"
  | emptyChangeset => "EmptyChangeset"
  | unknownProperty => "UnknownProperty"
  | invalidMapping => "InvalidMapping"
  | unsupportedPath => "UnsupportedPath"

/-- An error with all its parts. -/
def Error.describe (complaint : String → String) : Error → String
  | configuration report =>
      "Config(" ++ parts "ConfigError"
        [part "kind" report.kind.describe,
          part "model" (option (report.model.map quoted)),
          part "message" (quoted report.message)] ++ ")"
  | lookup report =>
      "Lookup(" ++ parts "LookupError"
        [part "model" (quoted report.model), part "property" (quoted report.property)] ++ ")"
  | conversion report =>
      "Type(" ++ parts "TypeError"
        [part "expected" (quoted report.expected),
          part "actual" (quoted (report.actual.text complaint)),
          part "property" (option (report.property.map quoted))] ++ ")"

namespace Description

/-- A text or the error in its place. -/
def result (complaint : String → String) : Except Error String → String
  | .ok text => "Ok(" ++ quoted text ++ ")"
  | .error error => "Err(" ++ error.describe complaint ++ ")"

end Description

def Property.describe (property : Property) : String :=
  parts "Property"
    [part "name" (quoted property.name),
      part "column" (option (property.column.map quoted)),
      part "flags" property.flags.text,
      part "order" (option (property.order.map fun order => order.toInt.repr)),
      part "type_name" (quoted property.type.typeName), ".."]

def Accessor.describe {shape : Shape} (accessor : Accessor shape) : String :=
  parts "PropertyAccessor"
    [part "name" (quoted accessor.name),
      part "type_name" (quoted accessor.property.type.typeName),
      part "flags" accessor.property.flags.text,
      part "readable" (truth accessor.property.isReadable),
      part "writable" (truth accessor.property.isWritable)]

def AccessorCache.describe (cache : AccessorCache) : String :=
  parts "AccessorCache" [part "types" cache.size.repr]

/-- A changeset; its record is described by the name of its shape. -/
def ChangeSet.describe {shape : Shape} (changes : ChangeSet shape) : String :=
  parts "ChangeSet"
    [part "changed" (list (changes.names.map quoted)), part "target" shape.name]

def StatementSet.describe (complaint : String → String) (set : StatementSet) : String :=
  parts "StatementSet"
    [part "dialect" (quoted set.dialect.traits.name),
      part "model" (quoted set.mapping.model),
      part "object" (quoted set.object),
      part "insert" (quoted set.insert),
      part "update" (result complaint set.update),
      part "delete" (result complaint set.delete),
      part "find_by_key" (result complaint set.findByKey), ".."]

/-- A gateway, with the number of statement sets in its registry. -/
def Gateway.describe (gateway : Gateway) (workspace : Workspace) : String :=
  parts "Crud"
    [part "dialect" (quoted gateway.dialect.traits.name),
      part "statement_sets" (workspace.registry gateway.registry).size.repr]

end RowMapping
