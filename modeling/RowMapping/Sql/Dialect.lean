import RowMapping.Sql.Delimiters
import RowMapping.Text.Blank

/-!
# Dialects

A dialect decides how identifiers are quoted, how the affected row is asked for, which schema a
mapping without one falls into and whether other databases can be reached. Three dialects are built
in. Any other is given by its traits and belongs to a family; statements are shared within a family.
-/

namespace RowMapping

/-- Where a statement asks for the affected row. -/
inductive OutputStyle where
  /-- At its end. -/
  | returning
  /-- Before its values or its condition. -/
  | output
  deriving DecidableEq, Repr

/-- The keyword that asks for the affected row. -/
def OutputStyle.keyword : OutputStyle → String
  | returning => "RETURNING"
  | output => "OUTPUT"

/-- The built-in dialects. -/
inductive DialectKind where
  | postgres
  | sqlServer
  | sqlite
  deriving DecidableEq, Repr

/-- What statements need to know about a dialect. -/
structure DialectTraits where
  name : String
  /-- How an identifier is quoted. -/
  quote : String → String
  /-- The schema of a mapping that names none. -/
  defaultSchema : Option String
  /-- Where the affected row is asked for. -/
  style : OutputStyle
  /-- A column of the affected row. -/
  outputColumn : String → String := quote
  /-- Whether objects of other databases can be addressed. -/
  crossDatabase : Bool := true

/-- The group of dialects that share statements. -/
inductive DialectFamily where
  /-- A built-in dialect on its own. -/
  | standard (kind : DialectKind)
  /-- The dialects of a given family name. -/
  | custom (name : String)
  deriving DecidableEq, Repr

inductive Dialect where
  /-- A built-in dialect. -/
  | standard (kind : DialectKind)
  /-- A dialect of another family. -/
  | custom (family : String) (traits : DialectTraits)

namespace DialectKind

def name : DialectKind → String
  | postgres => "postgres"
  | sqlServer => "sqlserver"
  | sqlite => "sqlite"

/-- The delimiters of a built-in dialect. -/
def delimiters : DialectKind → Delimiters
  | postgres => ⟨"\"", "\""⟩
  | sqlServer => ⟨"[", "]"⟩
  | sqlite => ⟨"\"", "\""⟩

/-- The traits of a built-in dialect. -/
def traits (kind : DialectKind) : DialectTraits :=
  let quote := kind.delimiters.quote
  match kind with
  | postgres =>
      { name := kind.name, quote, defaultSchema := some "public", style := .returning,
        crossDatabase := false }
  | sqlServer =>
      { name := kind.name, quote, defaultSchema := some "dbo", style := .output,
        outputColumn := fun column => "INSERTED." ++ quote column }
  | sqlite =>
      { name := kind.name, quote, defaultSchema := some "main", style := .returning,
        crossDatabase := false }

/-- The built-in dialect of an exact name. -/
def ofName? : String → Option DialectKind
  | "postgres" => some postgres
  | "sqlserver" => some sqlServer
  | "sqlite" => some sqlite
  | _ => none

/-- The built-in dialect of a name in any case, with or without blank ends; common other names are
understood too. Lowering ASCII letters is enough: no other character has a letter of these names as
its lower case. -/
def parse? (text : String) : Option DialectKind :=
  match (Text.trim text).map Char.toLower with
  | "postgres" | "postgresql" | "pg" | "pgsql" => some postgres
  | "sqlserver" | "mssql" | "sqlclient" | "tsql" => some sqlServer
  | "sqlite" | "sqlite3" => some sqlite
  | _ => none

end DialectKind

/-- A name that no built-in dialect has. -/
structure UnknownDialect where
  name : String
  deriving DecidableEq, Repr

def UnknownDialect.message (unknown : UnknownDialect) : String :=
  String.join ["unknown SQL dialect '", unknown.name, "'"]

/-- The built-in dialect of a name, or the report that there is none. -/
def DialectKind.parse (text : String) : Except UnknownDialect DialectKind :=
  match parse? text with
  | some kind => .ok kind
  | none => .error ⟨text⟩

namespace Dialect

def traits : Dialect → DialectTraits
  | standard kind => kind.traits
  | custom _ traits => traits

def family : Dialect → DialectFamily
  | standard kind => .standard kind
  | custom family _ => .custom family

theorem eq_of_family_eq_standard {dialect : Dialect} {kind : DialectKind}
    (same : dialect.family = .standard kind) : dialect = standard kind := by
  cases dialect with
  | standard other => simpa [family] using same
  | custom name traits => simp [family] at same

end Dialect

end RowMapping
