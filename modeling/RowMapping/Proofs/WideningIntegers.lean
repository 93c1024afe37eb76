import RowMapping.Proofs.Patch.Writing
import RowMapping.Proofs.Value.RoundTrip

/-!
# Wider integer types

A value counts as an integer of some width: that of its kind, where times and timestamps count as
integers of 64 bits and truth values as zero and one of the least width. An integer type takes the
values that are at most as wide, each as the number that it counts as. Dates count as integers of 32
bits, but the type of 64 bits does not take them. So a wider type takes whatever a narrower one
takes, as the same number, unless it is a date; and a truth value that is read from the same value
tells whether the number is zero.
-/

namespace RowMapping

/-- An integer and the number of bits that stand for it. -/
structure SizedInteger where
  bits : Nat
  number : Int
  deriving DecidableEq, Repr

namespace Value

/-- The integer that a value counts as. -/
def asInteger? : Value → Option SizedInteger
  | bool truth => some ⟨1, if truth then 1 else 0⟩
  | tinyInt value => some ⟨8, value.toInt⟩
  | smallInt value => some ⟨16, value.toInt⟩
  | int value => some ⟨32, value.toInt⟩
  | date days => some ⟨32, days.toInt⟩
  | bigInt value => some ⟨64, value.toInt⟩
  | time microseconds => some ⟨64, microseconds.toInt⟩
  | timestamp microseconds => some ⟨64, microseconds.toInt⟩
  | _ => none

def isDate : Value → Bool
  | date _ => true
  | _ => false

end Value

namespace IntegerWidth

/-- A type takes the values that count as integers and are not wider than itself, save that the
widest type takes no dates. -/
theorem map_toInt_ofValue? {width : IntegerWidth} {value : Value}
    (admitted : value.isDate = false ∨ width ≠ sixtyFour) :
    (width.ofValue? value).map width.toInt =
      (value.asInteger?.filter fun integer => integer.bits ≤ width.bits).map (·.number) := by
  cases value with
  | bool truth => cases truth <;> cases width <;> rfl
  | tinyInt value =>
      cases width with
      | eight => rfl
      | sixteen => exact congrArg some value.toInt_toInt16
      | thirtyTwo => exact congrArg some value.toInt_toInt32
      | sixtyFour => exact congrArg some value.toInt_toInt64
  | smallInt value =>
      cases width with
      | eight | sixteen => rfl
      | thirtyTwo => exact congrArg some value.toInt_toInt32
      | sixtyFour => exact congrArg some value.toInt_toInt64
  | int value =>
      cases width with
      | eight | sixteen | thirtyTwo => rfl
      | sixtyFour => exact congrArg some value.toInt_toInt64
  | date days =>
      cases width with
      | eight | sixteen | thirtyTwo => rfl
      | sixtyFour => simp [Value.isDate] at admitted
  | _ => cases width <;> rfl

theorem ofValue?_of_isDate {value : Value} (isDate : value.isDate = true) :
    sixtyFour.ofValue? value = none := by
  cases value with
  | date days => rfl
  | _ => cases isDate

variable {narrow wide : IntegerWidth} {value : Value}

theorem asInteger?_of_ofValue? {number : narrow.Carrier}
    (read : narrow.ofValue? value = some number) :
    ∃ bits ≤ narrow.bits, value.asInteger? = some ⟨bits, narrow.toInt number⟩ := by
  have admitted : value.isDate = false ∨ narrow ≠ sixtyFour := by
    cases isDate : value.isDate with
    | false => exact .inl rfl
    | true =>
        refine .inr ?_
        rintro rfl
        rw [ofValue?_of_isDate isDate] at read
        cases read
  have counted := map_toInt_ofValue? admitted
  rw [read, Option.map_some] at counted
  obtain ⟨⟨bits, count⟩, filtered, count_eq⟩ := Option.map_eq_some_iff.mp counted.symm
  obtain ⟨found, fits⟩ := Option.filter_eq_some_iff.mp filtered
  obtain rfl : count = narrow.toInt number := count_eq
  exact ⟨bits, by simpa using fits, found⟩

/-- A wider type takes what a narrower one takes, as the same number, unless it is a date. -/
theorem exists_ofValue?_of_bits_le (le : narrow.bits ≤ wide.bits)
    (admitted : value.isDate = false ∨ wide ≠ sixtyFour) {number : narrow.Carrier}
    (read : narrow.ofValue? value = some number) :
    ∃ widened, wide.ofValue? value = some widened ∧ wide.toInt widened = narrow.toInt number := by
  obtain ⟨bits, fits, counted⟩ := asInteger?_of_ofValue? read
  have taken : (wide.ofValue? value).map wide.toInt = some (narrow.toInt number) := by
    rw [map_toInt_ofValue? admitted, counted,
      Option.filter_some_pos (by simpa using Nat.le_trans fits le), Option.map_some]
  exact Option.map_eq_some_iff.mp taken

end IntegerWidth

namespace FieldType

theorem expect_eq_ok_iff {α : Type} {expected : String} {value : Value} {result : Option α}
    {content : α} : expect expected value result = .ok content ↔ result = some content := by
  cases result <;> simp [expect]

/-- A value that reads as a truth value and counts as an integer is true unless it is zero. -/
theorem bool?_iff {value : Value} {truth : Bool} {integer : SizedInteger}
    (read : bool? value = some truth) (counted : value.asInteger? = some integer) :
    truth = true ↔ integer.number ≠ 0 := by
  cases value with
  | bool value =>
      obtain rfl := Option.some.inj read
      obtain rfl := Option.some.inj counted
      cases value <;> simp
  | tinyInt value =>
      obtain rfl := Option.some.inj read
      obtain rfl := Option.some.inj counted
      simp [← Int8.toInt_inj]
  | smallInt value =>
      obtain rfl := Option.some.inj read
      obtain rfl := Option.some.inj counted
      simp [← Int16.toInt_inj]
  | int value =>
      obtain rfl := Option.some.inj read
      obtain rfl := Option.some.inj counted
      simp [← Int32.toInt_inj]
  | bigInt value =>
      obtain rfl := Option.some.inj read
      obtain rfl := Option.some.inj counted
      simp [← Int64.toInt_inj]
  | _ => cases read

/-! ## Under optional layers -/

/-- A type under a number of optional layers. -/
def layered (type : FieldType) : Nat → FieldType
  | 0 => type
  | layers + 1 => optional (type.layered layers)

/-- Two contents are empty in the same optional layer, or neither is and what they hold is
related. -/
def AgreeUnder {left right : FieldType} (related : left.Carrier → right.Carrier → Prop) :
    (layers : Nat) → (left.layered layers).Carrier → (right.layered layers).Carrier → Prop
  | 0, content, other => related content other
  | _ + 1, none, none => True
  | layers + 1, some content, some other => AgreeUnder related layers content other
  | _ + 1, _, _ => False

variable {left right : FieldType} {related : left.Carrier → right.Carrier → Prop} {value : Value}

/-- A value that is not null goes through optional layers as it is. -/
theorem ofValue_layered_succ (present : value ≠ .null) (type : FieldType) (layers : Nat) :
    (type.layered (layers + 1)).ofValue value = ((type.layered layers).ofValue value).map some :=
  optionally_of_ne_null _ present

theorem ofValue_layered_eq_error (present : value ≠ .null) {type : FieldType}
    {report : ConversionError} (refused : type.ofValue value = .error report) (layers : Nat) :
    (type.layered layers).ofValue value = .error report := by
  induction layers with
  | zero => exact refused
  | succ layers ih =>
      rw [ofValue_layered_succ present, ih]
      rfl

/-- If one type takes a value whenever another does, it also does under optional layers. -/
theorem exists_ofValue_layered
    (lifts : ∀ content, left.ofValue value = .ok content →
      ∃ other, right.ofValue value = .ok other ∧ related content other)
    (layers : Nat) {content : (left.layered layers).Carrier}
    (converted : (left.layered layers).ofValue value = .ok content) :
    ∃ other, (right.layered layers).ofValue value = .ok other ∧
      AgreeUnder related layers content other := by
  induction layers with
  | zero => exact lifts content converted
  | succ layers ih =>
      by_cases isNull : value = .null
      · subst isNull
        cases converted
        exact ⟨none, rfl, trivial⟩
      · rw [ofValue_layered_succ isNull] at converted
        obtain ⟨inner, read, rfl⟩ := map_eq_ok converted
        obtain ⟨other, taken, agree⟩ := ih read
        refine ⟨some other, ?_, agree⟩
        rw [ofValue_layered_succ isNull, taken]
        rfl

/-- If two types read a value alike, they also do under optional layers. -/
theorem agreeUnder_of_ofValue
    (alike : ∀ content other, left.ofValue value = .ok content → right.ofValue value = .ok other →
      related content other)
    (layers : Nat) {content : (left.layered layers).Carrier}
    {other : (right.layered layers).Carrier}
    (converted : (left.layered layers).ofValue value = .ok content)
    (taken : (right.layered layers).ofValue value = .ok other) :
    AgreeUnder related layers content other := by
  induction layers with
  | zero => exact alike content other converted taken
  | succ layers ih =>
      by_cases isNull : value = .null
      · subst isNull
        cases converted
        cases taken
        trivial
      · rw [ofValue_layered_succ isNull] at converted taken
        obtain ⟨inner, read, rfl⟩ := map_eq_ok converted
        obtain ⟨otherInner, otherRead, rfl⟩ := map_eq_ok taken
        exact ih read otherRead

/-! ## Integer types under optional layers -/

variable {narrow wide : IntegerWidth}

/-- The same number in two widths. -/
def SameNumber (narrow wide : IntegerWidth) (number : (integer narrow).Carrier)
    (widened : (integer wide).Carrier) : Prop :=
  wide.toInt widened = narrow.toInt number

/-- A truth value that tells whether a number is not zero. -/
def TellsNonzero (width : IntegerWidth) (truth : FieldType.bool.Carrier)
    (number : (integer width).Carrier) : Prop :=
  truth = true ↔ width.toInt number ≠ 0

theorem exists_ofValue_of_bits_le (le : narrow.bits ≤ wide.bits)
    (admitted : value.isDate = false ∨ wide ≠ .sixtyFour) (number : (integer narrow).Carrier)
    (converted : (integer narrow).ofValue value = .ok number) :
    ∃ widened, (integer wide).ofValue value = .ok widened ∧
      SameNumber narrow wide number widened := by
  obtain ⟨widened, taken, same⟩ :=
    IntegerWidth.exists_ofValue?_of_bits_le le admitted (expect_eq_ok_iff.mp converted)
  exact ⟨widened, expect_eq_ok_iff.mpr taken, same⟩

theorem tellsNonzero_of_ofValue {width : IntegerWidth} (truth : FieldType.bool.Carrier)
    (number : (integer width).Carrier) (read : FieldType.bool.ofValue value = .ok truth)
    (converted : (integer width).ofValue value = .ok number) : TellsNonzero width truth number := by
  obtain ⟨bits, -, counted⟩ := IntegerWidth.asInteger?_of_ofValue? (expect_eq_ok_iff.mp converted)
  exact bool?_iff (expect_eq_ok_iff.mp read) counted

theorem ofValue_layered_of_isDate (isDate : value.isDate = true) (layers : Nat) :
    ((integer .sixtyFour).layered layers).ofValue value = .error ⟨"i64", .kind "DATE", none⟩ := by
  cases value with
  | date days => exact ofValue_layered_eq_error (by simp) rfl layers
  | _ => cases isDate

/-- Contents with the same number in the same place read as values with the same number. -/
theorem asInteger?_toValue_of_agreeUnder {layers : Nat}
    {content : ((integer narrow).layered layers).Carrier}
    {other : ((integer wide).layered layers).Carrier}
    (agree : AgreeUnder (SameNumber narrow wide) layers content other) :
    (((integer wide).layered layers).toValue other).asInteger?.map (·.number) =
      (((integer narrow).layered layers).toValue content).asInteger?.map (·.number) := by
  induction layers with
  | zero =>
      have asInteger?_toValue (width : IntegerWidth) (number : width.Carrier) :
          (width.toValue number).asInteger?.map (·.number) = some (width.toInt number) := by
        cases width <;> rfl
      exact (asInteger?_toValue wide other).trans
        ((congrArg some agree).trans (asInteger?_toValue narrow content).symm)
  | succ layers ih =>
      match content, other with
      | none, none => rfl
      | some content, some other => exact ih agree

/-- What a value gives to two types, the wider of them and the other under the same layers. -/
structure Widens (narrow wide : IntegerWidth) (layers : Nat) (value : Value) : Prop where
  /-- If the narrower type takes the value, the wider one takes it as the same number, or it is a
  date and the wider type is the widest. -/
  taken_iff : ∀ number, ((integer narrow).layered layers).ofValue value = .ok number →
    ((∃ widened, ((integer wide).layered layers).ofValue value = .ok widened ∧
        AgreeUnder (SameNumber narrow wide) layers number widened) ↔
      (value.isDate = false ∨ wide ≠ .sixtyFour))
  /-- In that case it is refused. -/
  refused : value.isDate = true →
    ((integer .sixtyFour).layered layers).ofValue value = .error ⟨"i64", .kind "DATE", none⟩
  /-- A truth value that is read from the value too tells whether the number is zero. -/
  tells : ∀ truth number, (FieldType.bool.layered layers).ofValue value = .ok truth →
    ((integer narrow).layered layers).ofValue value = .ok number →
      AgreeUnder (TellsNonzero narrow) layers truth number

theorem widens (le : narrow.bits ≤ wide.bits) (layers : Nat) (value : Value) :
    Widens narrow wide layers value where
  taken_iff := by
    intro number converted
    constructor
    · rintro ⟨widened, taken, -⟩
      by_contra refused
      obtain ⟨isDate, isWidest⟩ := not_or.mp refused
      obtain rfl := Classical.not_not.mp isWidest
      rw [ofValue_layered_of_isDate (by simpa using isDate)] at taken
      cases taken
    · intro admitted
      exact exists_ofValue_layered (exists_ofValue_of_bits_le le admitted) layers converted
  refused isDate := ofValue_layered_of_isDate isDate layers
  tells _ _ read converted := agreeUnder_of_ofValue tellsNonzero_of_ofValue layers read converted

end FieldType

/-! ## Properties of integer types -/

namespace Accessor

variable {shape other : Shape}

theorem write_eq_some {place : shape.Place} {record written : Record shape} {value : Value}
    (taken : (Accessor.mk place).write record value = .ok (some written)) :
    (shape.property place).isWritable = true ∧
      ∃ content, (shape.property place).type.ofValue value = .ok content ∧
        written = record.put place content := by
  by_cases isWritable : (shape.property place).isWritable = true
  · rw [write_of_isWritable isWritable] at taken
    cases converted : (shape.property place).type.ofValue value with
    | error report =>
        rw [converted] at taken
        cases taken
    | ok content =>
        rw [converted] at taken
        cases taken
        exact ⟨isWritable, content, rfl, rfl⟩
  · have barred : ¬ (Accessor.mk place).property.isWritable = true := isWritable
    rw [write, if_neg barred] at taken
    cases taken

/-- A property of a wider type takes what one of a narrower type takes, and then reads as the same
number. -/
theorem exists_write_of_bits_le {narrow wide : IntegerWidth} (le : narrow.bits ≤ wide.bits)
    {layers : Nat} {value : Value} (admitted : value.isDate = false ∨ wide ≠ .sixtyFour)
    {place : shape.Place} {wider : other.Place}
    (type_eq : (shape.property place).type = (FieldType.integer narrow).layered layers)
    (wider_eq : (other.property wider).type = (FieldType.integer wide).layered layers)
    (isWritable : (other.property wider).isWritable = true) {record written : Record shape}
    (taken : (Accessor.mk place).write record value = .ok (some written))
    (otherRecord : Record other) :
    ∃ widened, (Accessor.mk wider).write otherRecord value = .ok (some widened) ∧
      (widened.value wider).asInteger?.map (·.number) =
        (written.value place).asInteger?.map (·.number) := by
  -- The types are stated of places, so the equations can only be used once these are forgotten.
  have convert {type widerType : FieldType}
      (type_eq : type = (FieldType.integer narrow).layered layers)
      (wider_eq : widerType = (FieldType.integer wide).layered layers) {content : type.Carrier}
      (converted : type.ofValue value = .ok content) :
      ∃ widened, widerType.ofValue value = .ok widened ∧
        (widerType.toValue widened).asInteger?.map (·.number) =
          (type.toValue content).asInteger?.map (·.number) := by
    subst type_eq wider_eq
    obtain ⟨widened, widened_eq, agree⟩ :=
      ((FieldType.widens le layers value).taken_iff content converted).mpr admitted
    exact ⟨widened, widened_eq, FieldType.asInteger?_toValue_of_agreeUnder agree⟩
  obtain ⟨narrow_isWritable, content, converted, rfl⟩ := write_eq_some taken
  obtain ⟨widened, widened_eq, same⟩ := convert type_eq wider_eq converted
  refine ⟨otherRecord.put wider widened, ?_, ?_⟩
  · rw [write_of_isWritable isWritable, widened_eq]
  · rw [Record.value, Record.value, Record.reading_of_isWritable _ isWritable,
      Record.reading_of_isWritable _ narrow_isWritable, Record.cell_put_self,
      Record.cell_put_self, same]

end Accessor

/-- A value that an integer type takes is taken by every wider one, as the same number, except that
the widest type takes no dates; a truth value that is read from it is true unless the number is
zero; and all this holds under any number of optional layers. So a property that is given a wider
type takes all that it took before, dates apart, and reads as the same number. -/
theorem FieldType.widens_of_bits_le {narrow wide : IntegerWidth} (le : narrow.bits ≤ wide.bits) :
    (∀ layers value, Widens narrow wide layers value) ∧
    ∀ (shape other : Shape) (place : shape.Place) (wider : other.Place) (layers : Nat)
      (value : Value), value.isDate = false ∨ wide ≠ .sixtyFour →
      (shape.property place).type = (integer narrow).layered layers →
      (other.property wider).type = (integer wide).layered layers →
      (other.property wider).isWritable = true →
      ∀ record written, (Accessor.mk place).write record value = .ok (some written) →
        ∀ otherRecord, ∃ widened,
          (Accessor.mk wider).write otherRecord value = .ok (some widened) ∧
            (widened.value wider).asInteger?.map (·.number) =
              (written.value place).asInteger?.map (·.number) := by
  constructor
  · intro layers value
    exact widens le layers value
  · intro shape other place wider layers value admitted type_eq wider_eq isWritable record written
      taken otherRecord
    exact Accessor.exists_write_of_bits_le le admitted type_eq wider_eq isWritable taken otherRecord

/-- A meter that counts up to some width, or not at all. -/
def meter (width : IntegerWidth) : Shape where
  name := "Meter"
  properties := [{ name := "Count", type := .optional (.integer width) }]

/-- A small count is taken by a wider meter and reads as the same number; a day still is by a meter
of its own width. -/
theorem FieldType.widens_of_bits_le_meter :
    let narrow : Accessor (meter .sixteen) := ⟨⟨0, by decide⟩⟩
    let wide : Accessor (meter .sixtyFour) := ⟨⟨0, by decide⟩⟩
    (∃ written, narrow.write (Record.blank _) (.tinyInt (-3)) = .ok (some written) ∧
      ∃ widened, wide.write (Record.blank _) (.tinyInt (-3)) = .ok (some widened) ∧
        (widened.value wide.place).asInteger?.map (·.number) =
          (written.value narrow.place).asInteger?.map (·.number)) ∧
      ∃ day, ((integer .thirtyTwo).layered 1).ofValue (.date 19000) = .ok day ∧
        AgreeUnder (SameNumber .thirtyTwo .thirtyTwo) 1 (some 19000 : Option Int32) day := by
  intro narrow wide
  constructor
  · refine ⟨_, rfl, ?_⟩
    exact (@widens_of_bits_le .sixteen .sixtyFour (by decide)).2 (meter .sixteen) (meter .sixtyFour)
      narrow.place wide.place 1 (.tinyInt (-3)) (.inl rfl) rfl rfl rfl _ _ rfl (Record.blank _)
  · have day := (@widens_of_bits_le .thirtyTwo .thirtyTwo (by decide)).1 1 (.date 19000)
    exact (day.taken_iff (some 19000 : Option Int32) rfl).mpr (.inr (by decide))

/-- A date is read by a type of 32 bits, but not by the one of 64 bits. -/
theorem FieldType.ofValue_date :
    (integer .thirtyTwo).ofValue (.date 19000) = .ok (19000 : Int32) ∧
      (integer .sixtyFour).ofValue (.date 19000) = .error ⟨"i64", .kind "DATE", none⟩ ∧
      ¬ ∀ (narrow wide : IntegerWidth), narrow.bits ≤ wide.bits → ∀ (value : Value)
        (number : (integer narrow).Carrier), (integer narrow).ofValue value = .ok number →
          ∃ widened, (integer wide).ofValue value = .ok widened ∧
            SameNumber narrow wide number widened := by
  refine ⟨rfl, rfl, fun widening => ?_⟩
  obtain ⟨widened, taken, -⟩ :=
    widening .thirtyTwo .sixtyFour (by decide) (.date 19000) (19000 : Int32) rfl
  cases taken

end RowMapping
