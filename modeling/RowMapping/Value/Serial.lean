import RowMapping.Json.Text
import RowMapping.Value.Basic

/-!
# Serial form of values

A value is written as an object with one member, whose key is the kind of the value and whose value
is its content; null is the bare word of its kind. Reading takes a text of that form, where null
may also be an object whose content is null. Bytes are arrays of small integers, numbers with a
fraction are written with the fewest digits that read back, and integers must be in range.
-/

namespace RowMapping.Value

open Json (Form)

/-! ## Writing -/

def integerForm (value : Int) : Form := .number (.ofInt value)

/-- The form of a number that may have no numeral; then it is null. -/
def numeralForm : Option Numeral → Form
  | some numeral => .number numeral
  | none => .null

def bytesForm (bytes : List UInt8) : Form := .array (bytes.map fun byte => integerForm byte.toNat)

/-- A content under the name of its kind. -/
def tagged (tag : String) (content : Form) : Form := .object [(some tag, content)]

/-- The form in which a value is written. -/
def form : Value → Form
  | null => .string (some "Null")
  | bool truth => tagged "Bool" (.truth truth)
  | tinyInt value => tagged "TinyInt" (integerForm value.toInt)
  | smallInt value => tagged "SmallInt" (integerForm value.toInt)
  | int value => tagged "Int" (integerForm value.toInt)
  | bigInt value => tagged "BigInt" (integerForm value.toInt)
  | float number => tagged "Float" (numeralForm (Numeral.ofBinary32? number))
  | double number => tagged "Double" (numeralForm (Numeral.ofBinary64? number))
  | decimal digits => tagged "Decimal" (.string (some digits))
  | text string => tagged "Text" (.string (some string))
  | bytes content => tagged "Bytes" (bytesForm content)
  | date days => tagged "Date" (integerForm days.toInt)
  | time microseconds => tagged "Time" (integerForm microseconds.toInt)
  | timestamp microseconds => tagged "Timestamp" (integerForm microseconds.toInt)
  | uuid identifier => tagged "Uuid" (bytesForm identifier.bytes)
  | json document => tagged "Json" document.form

def serialText (value : Value) : String := value.form.text

/-! ## Reading -/

/-- The number of a form. -/
def number? : Form → Option Json.Number
  | .number numeral => numeral.number?
  | _ => none

/-- The integer of a form, if it lies in the given range. -/
def integer? (least greatest : Int) (form : Form) : Option Int :=
  match number? form with
  | some (.integer integer) =>
      if least ≤ integer.value ∧ integer.value ≤ greatest then some integer.value else none
  | _ => none

/-- The 8-bit integer of a form. -/
def int8? (form : Form) : Option Int8 := (integer? (-128) 127 form).map Int8.ofInt

/-- The 16-bit integer of a form. -/
def int16? (form : Form) : Option Int16 := (integer? (-32768) 32767 form).map Int16.ofInt

/-- The 32-bit integer of a form. -/
def int32? (form : Form) : Option Int32 :=
  (integer? (-2147483648) 2147483647 form).map Int32.ofInt

/-- The 64-bit integer of a form. -/
def int64? (form : Form) : Option Int64 :=
  (integer? (-9223372036854775808) 9223372036854775807 form).map Int64.ofInt

/-- The byte of a form. -/
def byte? (form : Form) : Option UInt8 := (integer? 0 255 form).map fun byte => .ofNat byte.toNat

/-- The truth value of a form. -/
def truth? : Form → Option Bool
  | .truth value => some value
  | _ => none

/-- The text of a form. -/
def string? : Form → Option String
  | .string content => content
  | _ => none

/-- The bytes of a form. -/
def bytesOf? : Form → Option (List UInt8)
  | .array items => items.mapM byte?
  | _ => none

/-- The content under the name of a kind, for every kind but null. -/
def ofContent? (tag : String) (content : Form) : Option Value :=
  match tag with
  | "Bool" => (truth? content).map bool
  | "TinyInt" => (int8? content).map tinyInt
  | "SmallInt" => (int16? content).map smallInt
  | "Int" => (int32? content).map int
  | "BigInt" => (int64? content).map bigInt
  | "Float" => (number? content).map fun number => float number.toBinary32
  | "Double" => (number? content).map fun number => double number.toBinary64
  | "Decimal" => (string? content).map decimal
  | "Text" => (string? content).map text
  | "Bytes" => (bytesOf? content).map bytes
  | "Date" => (int32? content).map date
  | "Time" => (int64? content).map time
  | "Timestamp" => (int64? content).map timestamp
  | "Uuid" => ((bytesOf? content).bind Uuid.ofBytes?).map uuid
  | "Json" => (Document.ofForm? content).map json
  | _ => none

/-- The value that a form stands for. -/
def ofForm? : Form → Option Value
  | .string (some "Null") => some null
  | .object [(some "Null", .null)] => some null
  | .object [(some tag, content)] => ofContent? tag content
  | _ => none

/-- The value that a text stands for. -/
def ofSerialText? (text : String) : Option Value := (Form.ofShallowText? text).bind ofForm?

end RowMapping.Value
