import RowMapping.Error
import RowMapping.Json.Text
import RowMapping.Value.Basic

/-!
# Field types

The types that a property can have, the values that a field of each type can hold, and the
conversions between a field and a database value. Every field value converts; a database value
converts into the types listed for its kind. Integers widen and never narrow, truth values read as
zero and one, and only optional types take null.
-/

namespace RowMapping

/-- The width of a signed integer type. -/
inductive IntegerWidth where
  | eight
  | sixteen
  | thirtyTwo
  | sixtyFour
  deriving DecidableEq, Repr

namespace IntegerWidth

def bits : IntegerWidth → Nat
  | eight => 8
  | sixteen => 16
  | thirtyTwo => 32
  | sixtyFour => 64

/-- The integers of this width. -/
def Carrier : IntegerWidth → Type
  | eight => Int8
  | sixteen => Int16
  | thirtyTwo => Int32
  | sixtyFour => Int64

/-- The integer itself. -/
def toInt : (width : IntegerWidth) → width.Carrier → Int
  | eight, value => Int8.toInt value
  | sixteen, value => Int16.toInt value
  | thirtyTwo, value => Int32.toInt value
  | sixtyFour, value => Int64.toInt value

/-- The integer of this width that is nearest to `value` modulo the width. -/
def ofInt : (width : IntegerWidth) → Int → width.Carrier
  | eight, value => Int8.ofInt value
  | sixteen, value => Int16.ofInt value
  | thirtyTwo, value => Int32.ofInt value
  | sixtyFour, value => Int64.ofInt value

/-- The database value of an integer. -/
def toValue : (width : IntegerWidth) → width.Carrier → Value
  | eight, value => .tinyInt value
  | sixteen, value => .smallInt value
  | thirtyTwo, value => .int value
  | sixtyFour, value => .bigInt value

/-- The integer of this width that a database value holds. Values of this width or a smaller one
are taken; dates count as 32 bits wide, times and timestamps as 64. -/
def ofValue? : (width : IntegerWidth) → Value → Option width.Carrier
  | eight, .tinyInt value => some value
  | eight, .bool truth => some truth.toInt8
  | sixteen, .smallInt value => some value
  | sixteen, .tinyInt value => some value.toInt16
  | sixteen, .bool truth => some truth.toInt16
  | thirtyTwo, .int value => some value
  | thirtyTwo, .date days => some days
  | thirtyTwo, .smallInt value => some value.toInt32
  | thirtyTwo, .tinyInt value => some value.toInt32
  | thirtyTwo, .bool truth => some truth.toInt32
  | sixtyFour, .bigInt value => some value
  | sixtyFour, .time microseconds => some microseconds
  | sixtyFour, .timestamp microseconds => some microseconds
  | sixtyFour, .int value => some value.toInt64
  | sixtyFour, .smallInt value => some value.toInt64
  | sixtyFour, .tinyInt value => some value.toInt64
  | sixtyFour, .bool truth => some truth.toInt64
  | _, _ => none

end IntegerWidth

inductive FieldType where
  | bool
  | integer (width : IntegerWidth)
  | float32
  | float64
  | text
  | bytes
  | uuid
  | json
  /-- A value of the inner type, or nothing. -/
  | optional (inner : FieldType)
  /-- Text that the record does not own. -/
  | textReference
  /-- Any database value, unchanged. -/
  | dynamic
  deriving DecidableEq, Repr

namespace FieldType

/-- The name of the type in reports. -/
def typeName : FieldType → String
  | bool => "bool"
  | integer .eight => "i8"
  | integer .sixteen => "i16"
  | integer .thirtyTwo => "i32"
  | integer .sixtyFour => "i64"
  | float32 => "f32"
  | float64 => "f64"
  | text => "alloc::string::String"
  | bytes => "alloc::vec::Vec<u8>"
  | uuid => "[u8; 16]"
  | json => "serde_json::value::Value"
  | optional inner => String.join ["core::option::Option<", inner.typeName, ">"]
  | textReference => "&str"
  | dynamic => "Value"

/-- The values that a field of the type can hold. -/
def Carrier : FieldType → Type
  | bool => Bool
  | integer width => width.Carrier
  | float32 => Binary32
  | float64 => Binary64
  | text => String
  | bytes => List UInt8
  | uuid => Uuid
  | json => Document
  | optional inner => Option inner.Carrier
  | textReference => String
  | dynamic => Value

/-- The value of a field that has not been set. -/
def default : (type : FieldType) → type.Carrier
  | bool => false
  | integer width => width.ofInt 0
  | float32 => Binary32.zero
  | float64 => Binary64.zero
  | text => ""
  | bytes => ([] : List UInt8)
  | uuid => Uuid.zero
  | json => Document.null
  | optional _ => none
  | textReference => ""
  | dynamic => Value.null

/-- The database value of a field. -/
def toValue : (type : FieldType) → type.Carrier → Value
  | bool, truth => .bool truth
  | integer width, value => width.toValue value
  | float32, number => .float number
  | float64, number => .double number
  | text, string => .text string
  | bytes, content => .bytes content
  | uuid, identifier => .uuid identifier
  | json, document => .json document
  | optional _, none => .null
  | optional inner, some value => inner.toValue value
  | textReference, string => .text string
  | dynamic, value => value

/-- The database value of a field that has not been set. -/
def zero (type : FieldType) : Value := type.toValue type.default

/-! ## From database values -/

/-- The truth value of a truth value or an integer. -/
def bool? : Value → Option Bool
  | .bool truth => some truth
  | .tinyInt value => some (value != 0)
  | .smallInt value => some (value != 0)
  | .int value => some (value != 0)
  | .bigInt value => some (value != 0)
  | _ => none

/-- The 32-bit number of a value that the format holds exactly. -/
def float32? : Value → Option Binary32
  | .float number => some number
  | .smallInt value => some (.ofInt16 value)
  | .tinyInt value => some (.ofInt8 value)
  | _ => none

/-- The 64-bit number of a value that the format holds exactly. -/
def float64? : Value → Option Binary64
  | .double number => some number
  | .float number => some (.ofBinary32 number)
  | .int value => some (.ofInt32 value)
  | .smallInt value => some (.ofInt16 value)
  | .tinyInt value => some (.ofInt8 value)
  | _ => none

/-- The text of a text or a decimal. -/
def text? : Value → Option String
  | .text string => some string
  | .decimal digits => some digits
  | _ => none

/-- The bytes of binary data, of a text in UTF-8 or of an identifier. -/
def bytes? : Value → Option (List UInt8)
  | .bytes content => some content
  | .text string => some string.toUTF8.toList
  | .uuid identifier => some identifier.bytes
  | _ => none

/-- The identifier of an identifier or of sixteen bytes. -/
def uuid? : Value → Option Uuid
  | .uuid identifier => some identifier
  | .bytes content => Uuid.ofBytes? content
  | _ => none

/-- The result of a conversion, or the report that a value of another kind was found. -/
def expect {α : Type} (expected : String) (value : Value) (result : Option α) :
    Except ConversionError α :=
  match result with
  | some converted => .ok converted
  | none => .error ⟨expected, .kind value.kind, none⟩

/-- The document of a document or of a text that spells one. -/
def document : Value → Except ConversionError Document
  | .json content => .ok content
  | .text string =>
      match Document.ofText? string with
      | some content => .ok content
      | none => .error ⟨"JSON", .unparsable string, none⟩
  | other => .error ⟨"JSON", .kind other.kind, none⟩

/-- Null reads as nothing, and any other value as the inner type reads it. -/
def optionally {α : Type} (read : Value → Except ConversionError α) :
    Value → Except ConversionError (Option α)
  | .null => .ok none
  | value => (read value).map some

/-- The field that a database value converts into. -/
def ofValue : (type : FieldType) → Value → Except ConversionError type.Carrier
  | bool, value => expect "bool" value (bool? value)
  | integer width, value => expect (integer width).typeName value (width.ofValue? value)
  | float32, value => expect "f32" value (float32? value)
  | float64, value => expect "f64" value (float64? value)
  | text, value => expect "String" value (text? value)
  | bytes, value => expect "Vec<u8>" value (bytes? value)
  | uuid, value => expect "UUID" value (uuid? value)
  | json, value => document value
  | optional inner, value => optionally inner.ofValue value
  | textReference, value => expect "&str" value (text? value)
  | dynamic, value => .ok value

end FieldType

end RowMapping
