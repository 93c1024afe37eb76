import RowMapping.Value.FieldType

/-!
# Values read out of fields

What is read out of a field converts back into just what the field holds, unless it is null. A null
does not tell which of several optional types around a field is the empty one; but then it is also
what the field reads as while it has not been set, so a patch within one shape never carries it.
-/

namespace RowMapping.FieldType

theorem optionally_of_ne_null {α : Type} (read : Value → Except ConversionError α) {value : Value}
    (present : value ≠ .null) : optionally read value = (read value).map some := by
  cases value with
  | null => exact absurd rfl present
  | _ => rfl

/-- A value read out of a field, if it is not null, converts into the content of the field. -/
theorem ofValue_toValue {type : FieldType} {content : type.Carrier}
    (present : type.toValue content ≠ .null) :
    type.ofValue (type.toValue content) = .ok content := by
  induction type with
  | integer width => cases width <;> rfl
  | optional inner ih =>
      cases content with
      | none => exact absurd rfl present
      | some content =>
          have inner_present : inner.toValue content ≠ .null := present
          change optionally inner.ofValue (inner.toValue content) = _
          rw [optionally_of_ne_null _ inner_present, ih inner_present]
          rfl
  | _ => rfl

/-- Only types that can be empty read as null, and null is their value while they are not set. -/
theorem zero_eq_null_of_toValue {type : FieldType} {content : type.Carrier}
    (absent : type.toValue content = .null) : type.zero = .null := by
  cases type with
  | integer width => cases width <;> cases absent
  | optional inner => rfl
  | dynamic => rfl
  | _ => cases absent

theorem equals_zero (type : FieldType) : type.zero.equals type.zero = true := by
  cases type with
  | integer width => cases width <;> rfl
  | _ => rfl

/-- A value that differs from the zero of its type is not null. -/
theorem toValue_ne_null_of_differs {type : FieldType} {content : type.Carrier}
    (differs : (type.toValue content).equals type.zero = false) :
    type.toValue content ≠ .null := by
  intro absent
  rw [zero_eq_null_of_toValue absent, absent] at differs
  cases differs

end RowMapping.FieldType
