import RowMapping.Proofs.Json.Documents
import RowMapping.Value.Serial

/-!
# Values read back from their texts

A value without binary numbers is written as a legible form that stands for the value again:
integers are in the range of their type, bytes are small integers, and a document is put back in
order. So the value is read back from its text, provided that the text is not too deep; and only
documents can be that deep. The name of the kind puts one more object around them.
-/

namespace RowMapping.Value

open Json (Form)

/-! ## Contents -/

/-- A number that a type makes from the integers of a range is read back from its integer. -/
theorem map_integer?_integerForm {α : Type} {least greatest integer : Int} {make : Int → α}
    {number : α} (lower : least ≤ integer) (upper : integer < greatest + 1)
    (wide : -9223372036854775808 ≤ least ∧ greatest < 18446744073709551616)
    (made : make integer = number) :
    (integer? least greatest (integerForm integer)).map make = some number := by
  have inRange : least ≤ integer ∧ integer ≤ greatest := ⟨lower, by omega⟩
  have read : number? (integerForm integer) = some (.integer ⟨integer, by omega, by omega⟩) :=
    Numeral.number?_ofInt ⟨integer, by omega, by omega⟩
  have found : integer? least greatest (integerForm integer) = some integer := by
    rw [integer?, read]
    exact if_pos inRange
  rw [found, Option.map_some, made]

theorem int8?_integerForm (value : Int8) : int8? (integerForm value.toInt) = some value :=
  map_integer?_integerForm value.le_toInt value.toInt_lt (by decide) value.ofInt_toInt

theorem int16?_integerForm (value : Int16) : int16? (integerForm value.toInt) = some value :=
  map_integer?_integerForm value.le_toInt value.toInt_lt (by decide) value.ofInt_toInt

theorem int32?_integerForm (value : Int32) : int32? (integerForm value.toInt) = some value :=
  map_integer?_integerForm value.le_toInt value.toInt_lt (by decide) value.ofInt_toInt

theorem int64?_integerForm (value : Int64) : int64? (integerForm value.toInt) = some value :=
  map_integer?_integerForm value.le_toInt value.toInt_lt (by decide) value.ofInt_toInt

theorem byte?_integerForm (byte : UInt8) : byte? (integerForm byte.toNat) = some byte := by
  have small := byte.toNat_lt
  refine map_integer?_integerForm (by omega) (by omega) (by decide) ?_
  rw [Int.toNat_natCast, UInt8.ofNat_toNat]

theorem bytesOf?_bytesForm (bytes : List UInt8) : bytesOf? (bytesForm bytes) = some bytes := by
  rw [bytesForm, bytesOf?]
  induction bytes with
  | nil => rfl
  | cons byte bytes ih => simp [List.mapM_cons, byte?_integerForm, ih]

/-! ## Values -/

/-- Whether a value has no binary number, neither by itself nor within a document. -/
def isIntegral : Value → Bool
  | float _ | double _ => false
  | json document => document.root.isIntegral
  | _ => true

/-- The depth of the document that a value holds; other values have none. -/
def documentDepth : Value → Nat
  | json document => document.root.depth
  | _ => 0

/-- A kind other than null is read by its content. -/
theorem ofForm?_tagged {tag : String} (tag_ne : tag ≠ "Null") (content : Form) :
    ofForm? (tagged tag content) = ofContent? tag content := by
  rw [tagged, ofForm?]
  exact fun _ same => tag_ne same

/-- A content that is read back is so under the name of its kind. -/
theorem ofForm?_tagged_of_read {tag : String} (tag_ne : tag ≠ "Null") {content : Form} {α : Type}
    {make : α → Value} {read : Option α} (reads : ofContent? tag content = read.map make)
    {result : α} (found : read = some result) :
    ofForm? (tagged tag content) = some (make result) := by
  rw [ofForm?_tagged tag_ne, reads, found, Option.map_some]

theorem ofForm?_form {value : Value} (integral : value.isIntegral = true) :
    ofForm? value.form = some value := by
  cases value with
  | null => rfl
  | float number | double number => cases integral
  | bool truth => exact ofForm?_tagged_of_read (by decide) rfl rfl
  | decimal digits | text string => exact ofForm?_tagged_of_read (by decide) rfl rfl
  | tinyInt value => exact ofForm?_tagged_of_read (by decide) rfl (int8?_integerForm value)
  | smallInt value => exact ofForm?_tagged_of_read (by decide) rfl (int16?_integerForm value)
  | int value => exact ofForm?_tagged_of_read (by decide) rfl (int32?_integerForm value)
  | bigInt value => exact ofForm?_tagged_of_read (by decide) rfl (int64?_integerForm value)
  | bytes content => exact ofForm?_tagged_of_read (by decide) rfl (bytesOf?_bytesForm content)
  | date days => exact ofForm?_tagged_of_read (by decide) rfl (int32?_integerForm days)
  | time microseconds =>
      exact ofForm?_tagged_of_read (by decide) rfl (int64?_integerForm microseconds)
  | timestamp microseconds =>
      exact ofForm?_tagged_of_read (by decide) rfl (int64?_integerForm microseconds)
  | uuid identifier =>
      have read : (bytesOf? (bytesForm identifier.bytes)).bind Uuid.ofBytes? = some identifier := by
        rw [bytesOf?_bytesForm, Option.bind_some, Uuid.ofBytes?_bytes]
      exact ofForm?_tagged_of_read (by decide) rfl read
  | json document =>
      exact ofForm?_tagged_of_read (by decide) rfl (Document.ofForm?_form integral)

theorem isLegible_integerForm (integer : Int) : (integerForm integer).IsLegible :=
  List.forall_mem_singleton.mpr (Numeral.wellFormed_ofInt integer)

theorem isLegible_bytesForm (bytes : List UInt8) : (bytesForm bytes).IsLegible := by
  refine Form.isLegible_array ?_
  intro item member
  obtain ⟨byte, -, rfl⟩ := List.mem_map.mp member
  exact isLegible_integerForm byte.toNat

theorem isLegible_tagged (tag : String) {content : Form} (legible : content.IsLegible) :
    (tagged tag content).IsLegible :=
  Form.isLegible_object (List.forall_mem_singleton.mpr ⟨rfl, legible⟩)

theorem isLegible_form {value : Value} (integral : value.isIntegral = true) :
    value.form.IsLegible := by
  cases value with
  | null => exact List.forall_mem_singleton.mpr rfl
  | float number | double number => cases integral
  | bool truth => exact isLegible_tagged _ (List.forall_mem_singleton.mpr trivial)
  | decimal text | text text => exact isLegible_tagged _ (List.forall_mem_singleton.mpr rfl)
  | tinyInt value | smallInt value | int value | bigInt value | date value | time value
  | timestamp value => exact isLegible_tagged _ (isLegible_integerForm _)
  | bytes content => exact isLegible_tagged _ (isLegible_bytesForm content)
  | uuid identifier => exact isLegible_tagged _ (isLegible_bytesForm identifier.bytes)
  | json document => exact isLegible_tagged _ (Json.isLegible_form document.root integral)

/-! ## Depth -/

theorem depth_tagged (tag : String) (content : Form) :
    (tagged tag content).depth = content.depth + 1 := by
  simp [tagged, Form.depth, Form.depthOfMembers]

theorem depth_bytesForm (bytes : List UInt8) : (bytesForm bytes).depth = 1 := by
  suffices flat : Form.depthOfItems (bytes.map fun byte => integerForm byte.toNat) = 0 by
    rw [bytesForm, Form.depth, flat]
  induction bytes with
  | nil => rfl
  | cons byte bytes ih =>
      rw [List.map_cons, Form.depthOfItems, ih]
      rfl

/-- Only a document is written deeper than two levels; the name of its kind takes one of them. -/
theorem depth_form_le_iff (value : Value) :
    value.form.depth ≤ Form.depthLimit ↔ value.documentDepth ≤ 126 := by
  cases value with
  | json document =>
      have depth_eq : document.form.depth = document.root.depth := Json.depth_form document.root
      rw [form, depth_tagged, depth_eq, documentDepth, Form.depthLimit]
      omega
  | float number =>
      cases written : Numeral.ofBinary32? number <;>
        simp [form, written, numeralForm, depth_tagged, Form.depth, documentDepth, Form.depthLimit]
  | double number =>
      cases written : Numeral.ofBinary64? number <;>
        simp [form, written, numeralForm, depth_tagged, Form.depth, documentDepth, Form.depthLimit]
  | _ =>
      simp [form, depth_tagged, depth_bytesForm, integerForm, Form.depth, documentDepth,
        Form.depthLimit]

/-! ## Texts -/

/-- A value without binary numbers is read back from its text if the document that it holds, if any,
is at most 126 levels deep; a deeper one is refused. -/
theorem ofSerialText?_serialText {value : Value} (integral : value.isIntegral = true) :
    (value.documentDepth ≤ 126 → ofSerialText? value.serialText = some value) ∧
      (126 < value.documentDepth → ofSerialText? value.serialText = none) := by
  have read := Form.ofShallowText?_text (isLegible_form integral)
  constructor
  · intro shallow
    rw [ofSerialText?, serialText, read, if_pos ((depth_form_le_iff value).mpr shallow),
      Option.bind_some, ofForm?_form integral]
  · intro deep
    have tooDeep : ¬ value.form.depth ≤ Form.depthLimit := by
      rw [depth_form_le_iff]
      omega
    rw [ofSerialText?, serialText, read, if_neg tooDeep, Option.bind_none]

/-- A document with a key that needs escapes, the greatest integer and a control character. -/
def noteDocument : Document where
  root := .object [
    ("\\n \"", .array [.number (.integer ⟨18446744073709551615, by decide, by decide⟩), .null]),
    ("né", .object [("", .string "\n\x01\x7f"), ("a", .bool true)])]
  canonical := by decide

theorem ofSerialText?_serialText_note :
    ofSerialText? (json noteDocument).serialText = some (json noteDocument) ∧
      ofSerialText? (text "\t\"quoted\" \\ and \x00").serialText =
        some (text "\t\"quoted\" \\ and \x00") ∧
      ofSerialText? (uuid .zero).serialText = some (uuid .zero) ∧
      ofSerialText? (bigInt (-9223372036854775808)).serialText =
        some (bigInt (-9223372036854775808)) :=
  ⟨(ofSerialText?_serialText (by decide)).1 (by decide),
    (ofSerialText?_serialText rfl).1 (by decide), (ofSerialText?_serialText rfl).1 (by decide),
    (ofSerialText?_serialText rfl).1 (by decide)⟩

end RowMapping.Value
