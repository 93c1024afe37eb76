import RowMapping.Json.Basic
import RowMapping.Numeric.Binary

/-!
# Database values

The values that cross the boundary between records and statements: what a property reads as, what
it is written from and what a parameter is bound to.
-/

namespace RowMapping

/-- A universally unique identifier: sixteen bytes. -/
structure Uuid where
  /-- The bytes, first to last. -/
  bytes : List UInt8
  length_bytes : bytes.length = 16
  deriving DecidableEq, Repr

namespace Uuid

/-- The identifier with the given bytes, if there are sixteen of them. -/
def ofBytes? (bytes : List UInt8) : Option Uuid :=
  if sixteen : bytes.length = 16 then some ⟨bytes, sixteen⟩ else none

/-- The identifier whose bytes are all zero. -/
def zero : Uuid := ⟨List.replicate 16 0, by simp⟩

@[simp] theorem ofBytes?_bytes (uuid : Uuid) : ofBytes? uuid.bytes = some uuid := by
  simp [ofBytes?, uuid.length_bytes]

end Uuid

inductive Value where
  | null
  | bool (value : Bool)
  | tinyInt (value : Int8)
  | smallInt (value : Int16)
  | int (value : Int32)
  | bigInt (value : Int64)
  | float (value : Binary32)
  | double (value : Binary64)
  /-- A decimal number of any precision, as text. -/
  | decimal (digits : String)
  | text (value : String)
  | bytes (value : List UInt8)
  /-- Days since the epoch. -/
  | date (days : Int32)
  /-- Microseconds since midnight. -/
  | time (microseconds : Int64)
  /-- Microseconds since the epoch. -/
  | timestamp (microseconds : Int64)
  | uuid (value : Uuid)
  | json (value : Document)
  deriving DecidableEq

namespace Value

/-- The column type of a value, as errors name it. -/
def kind : Value → String
  | null => "NULL"
  | bool _ => "BOOLEAN"
  | tinyInt _ => "TINYINT"
  | smallInt _ => "SMALLINT"
  | int _ => "INTEGER"
  | bigInt _ => "BIGINT"
  | float _ => "REAL"
  | double _ => "DOUBLE"
  | decimal _ => "DECIMAL"
  | text _ => "TEXT"
  | bytes _ => "BLOB"
  | date _ => "DATE"
  | time _ => "TIME"
  | timestamp _ => "TIMESTAMP"
  | uuid _ => "UUID"
  | json _ => "JSON"

/-- Equality of values of one kind. Numbers with a fraction compare as numbers, so zeros of both
signs agree and a NaN differs from itself. -/
def equals : Value → Value → Bool
  | float left, float right => left.equals right
  | double left, double right => left.equals right
  | json left, json right => left.equals right
  | left, right => decide (left = right)

end Value

end RowMapping
