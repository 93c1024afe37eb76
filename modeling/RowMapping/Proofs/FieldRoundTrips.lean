import RowMapping.Proofs.Patch.Writing
import RowMapping.Proofs.Value.RoundTrip

/-!
# Fields that read as values and are written back

What a field reads as can be written back, into its own record or another. The field written then
holds what the field read did, unless that has an empty optional layer below the outermost one: all
empty layers read as null, and a null empties the field as a whole. What the fields read as is the
same in either case.
-/

namespace RowMapping

namespace FieldType

/-- Whether the fields of a type own what they hold and say of what kind it is: all but references
and dynamic values, under any number of optional layers. -/
def isOwned : FieldType → Bool
  | optional inner => inner.isOwned
  | textReference | dynamic => false
  | _ => true

/-- The number of optional layers. -/
def layers : FieldType → Nat
  | optional inner => inner.layers + 1
  | _ => 0

/-- Whether a content is the empty one of an optional type. -/
def isNone : (type : FieldType) → type.Carrier → Bool
  | optional _, none => true
  | _, _ => false

/-- Whether any optional layer of a content is empty. -/
def hasNone : (type : FieldType) → type.Carrier → Bool
  | optional _, none => true
  | optional inner, some content => inner.hasNone content
  | _, _ => false

/-- Whether an optional layer below the outermost one is empty. -/
def hasInnerNone : (type : FieldType) → type.Carrier → Bool
  | optional inner, some content => inner.hasNone content
  | _, _ => false

theorem hasNone_of_hasInnerNone {type : FieldType} {content : type.Carrier}
    (empty : type.hasInnerNone content = true) : type.hasNone content = true := by
  cases type with
  | optional inner =>
      cases content with
      | none => rfl
      | some content => exact empty
  | _ => cases empty

theorem hasInnerNone_of_layers {type : FieldType} (shallow : type.layers ≤ 1)
    (content : type.Carrier) : type.hasInnerNone content = false := by
  cases type with
  | optional inner =>
      cases content with
      | none => rfl
      | some content =>
          cases inner with
          | optional innermost => simp [layers] at shallow
          | _ => rfl
  | _ => rfl

/-- Exactly the contents with an empty layer read as null; a document that is null does not. -/
theorem toValue_eq_null_iff {type : FieldType} (owned : type.isOwned = true)
    (content : type.Carrier) : type.toValue content = .null ↔ type.hasNone content = true := by
  induction type with
  | integer width => cases width <;> simp [toValue, IntegerWidth.toValue, hasNone]
  | optional inner ih =>
      cases content with
      | none => exact iff_of_true rfl rfl
      | some content => exact ih owned content
  | textReference => cases owned
  | dynamic => cases owned
  | _ => simp [toValue, hasNone]

/-- What comes of a content that is read as a value and written back. -/
structure Restores (type : FieldType) (content result : type.Carrier) : Prop where
  ofValue_eq : type.ofValue (type.toValue content) = .ok result
  /-- It reads as the same value. -/
  toValue_eq : type.toValue result = type.toValue content
  /-- It is the same unless a layer below the outermost one is empty. -/
  eq_of_full : type.hasInnerNone content = false → result = content
  /-- In that case it is empty. -/
  isNone_of_empty : type.hasInnerNone content = true → type.isNone result = true

theorem exists_restores {type : FieldType} (owned : type.isOwned = true) (content : type.Carrier) :
    ∃ result, type.Restores content result := by
  by_cases present : type.toValue content = .null
  · have empty := (toValue_eq_null_iff owned content).mp present
    cases type with
    | optional inner =>
        -- A null does not tell which layer it comes from, so it is read as the outermost.
        refine ⟨none, ?_, present.symm, ?_, fun _ => rfl⟩
        · rw [present]
          rfl
        · intro full
          cases content with
          | none => rfl
          | some content =>
              have contradictory : true = false := Eq.trans (Eq.symm empty) full
              cases contradictory
    | _ => cases empty
  · refine ⟨content, ofValue_toValue present, rfl, fun _ => rfl, fun empty => ?_⟩
    exact absurd ((toValue_eq_null_iff owned content).mpr (hasNone_of_hasInnerNone empty)) present

/-- Two contents read as one value only if they are the same or both have an empty layer. -/
theorem toValue_eq_iff {type : FieldType} (owned : type.isOwned = true)
    (left right : type.Carrier) :
    type.toValue left = type.toValue right ↔
      left = right ∨ type.hasNone left = true ∧ type.hasNone right = true := by
  constructor
  · intro same
    by_cases present : type.toValue left = .null
    · exact .inr ⟨(toValue_eq_null_iff owned left).mp present,
        (toValue_eq_null_iff owned right).mp (same ▸ present)⟩
    · have restored := ofValue_toValue present
      rw [same, ofValue_toValue (same ▸ present)] at restored
      exact .inl (Except.ok.inj restored).symm
  · rintro (rfl | ⟨left_empty, right_empty⟩)
    · rfl
    · rw [(toValue_eq_null_iff owned left).mpr left_empty,
        (toValue_eq_null_iff owned right).mpr right_empty]

end FieldType

namespace Accessor

variable {shape : Shape}

theorem read?_of_isReadable {place : shape.Place}
    (isReadable : (shape.property place).isReadable = true) (record : Record shape) :
    (Accessor.mk place).read? record = some (record.value place) :=
  if_pos isReadable

/-- What a property that is a field reads as in one record can be written into another, which then
reads as the same. -/
theorem exists_write_read {place : shape.Place} (isField : (shape.property place).access = .field)
    (owned : (shape.property place).type.isOwned = true) (source target : Record shape) :
    ∃ value written, (Accessor.mk place).read? source = some value ∧
      (Accessor.mk place).write target value = .ok (some written) ∧
      (Accessor.mk place).read? written = some value ∧
      ∀ other ≠ place, written.cell other = target.cell other := by
  have isReadable : (shape.property place).isReadable = true := by
    rw [Property.isReadable, isField]
    rfl
  have isWritable : (shape.property place).isWritable = true := by
    rw [Property.isWritable, isField]
    rfl
  obtain ⟨result, restores⟩ := FieldType.exists_restores owned (source.reading place)
  refine ⟨source.value place, target.put place result, read?_of_isReadable isReadable source, ?_,
    ?_, fun other different => target.cell_put_of_ne result (Ne.symm different)⟩
  · rw [write_of_isWritable isWritable, Record.value, restores.ofValue_eq]
  · rw [read?_of_isReadable isReadable, Record.value, Record.reading_of_isWritable _ isWritable,
      Record.cell_put_self, restores.toValue_eq]
    rfl

end Accessor

/-- Whatever a field of a type holds, what it reads as converts back. It gives the content itself,
which it always does under at most one optional layer, or else, if a layer below the outermost one
is empty, the empty content; and that reads as the same value, as only contents with an empty layer
do that are not the same. So every property that is a field takes what it reads as in any record of
its shape, reads as the same afterwards and leaves all other cells alone. -/
theorem FieldType.restores_of_isOwned :
    (∀ type : FieldType, type.isOwned = true → ∀ content : type.Carrier,
      (∃ result, type.Restores content result) ∧
        (type.layers ≤ 1 → type.hasInnerNone content = false) ∧
        ∀ other, type.toValue content = type.toValue other ↔
          content = other ∨ type.hasNone content = true ∧ type.hasNone other = true) ∧
    ∀ (shape : Shape) (accessor : Accessor shape), accessor.property.access = .field →
      accessor.property.type.isOwned = true → ∀ source target : Record shape,
        ∃ value written, accessor.read? source = some value ∧
          accessor.write target value = .ok (some written) ∧
          accessor.read? written = some value ∧
          ∀ place ≠ accessor.place, written.cell place = target.cell place := by
  constructor
  · intro type owned content
    exact ⟨exists_restores owned content, fun shallow => hasInnerNone_of_layers shallow content,
      toValue_eq_iff owned content⟩
  · intro shape accessor isField owned source target
    exact Accessor.exists_write_read isField owned source target

/-- A gauge whose level may be missing, and may not have been asked for. -/
def gaugeReading : Shape where
  name := "GaugeReading"
  properties :=
    [{ name := "Level", type := .optional (.optional (.integer .sixteen)) },
     { name := "Raw", type := .optional .json }]

/-- A reading whose level is known to be missing. -/
def dryGauge : Record gaugeReading :=
  let level : Option (Option Int16) := some none
  (Record.blank gaugeReading).put ⟨0, by decide⟩ level

/-- A reading with a level, sent as it is. -/
def wetGauge : Record gaugeReading :=
  let level : Option (Option Int16) := some (some 3)
  let raw : Option Document := some Document.null
  ((Record.blank gaugeReading).put ⟨0, by decide⟩ level).put ⟨1, by decide⟩ raw

/-- The missing level reads as null and comes back as not asked for; a document that is null comes
back as it is. Written over a level that is there, the missing one takes its place, and the raw
reading stays. -/
theorem FieldType.restores_of_isOwned_gaugeReading :
    let level : FieldType := .optional (.optional (.integer .sixteen))
    let raw : (FieldType.optional .json).Carrier := some Document.null
    let accessor : Accessor gaugeReading := ⟨⟨0, by decide⟩⟩
    (∃ result, level.Restores (some none) result ∧ level.isNone result = true) ∧
      (FieldType.optional .json).Restores raw raw ∧
      accessor.read? wetGauge = some (.smallInt 3) ∧
      ∃ written, accessor.write wetGauge .null = .ok (some written) ∧
        accessor.read? written = some .null ∧ written.cell ⟨1, by decide⟩ = raw := by
  intro level raw accessor
  obtain ⟨result, restores⟩ := (restores_of_isOwned.1 level rfl (some none)).1
  obtain ⟨same, restores_raw⟩ := (restores_of_isOwned.1 (.optional .json) rfl raw).1
  obtain ⟨value, written, read, taken, reread, others⟩ :=
    restores_of_isOwned.2 gaugeReading accessor rfl rfl dryGauge wetGauge
  have isNull : value = .null := Option.some.inj read.symm
  refine ⟨⟨result, restores, restores.isNone_of_empty rfl⟩, ?_, rfl, written, ?_, ?_, ?_⟩
  · rwa [restores_raw.eq_of_full rfl] at restores_raw
  · rwa [isNull] at taken
  · rwa [isNull] at reread
  · exact others ⟨1, by decide⟩ (by decide)

end RowMapping
