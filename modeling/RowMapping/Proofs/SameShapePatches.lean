import RowMapping.Proofs.Patch.Writing
import RowMapping.Proofs.Value.RoundTrip

/-!
# Patches within one shape

A record may patch another of its own shape. Where no name is declared twice this always goes
through, and it lays the source over the target: a cell takes what the source holds if the property
has a column, can be read and written, and is set in the source; all other cells stay as they are.
So a source in which nothing is set changes nothing, and neither does a copy of the target. A
computed property of the target is never laid over; it reads as the cells then make it.
-/

namespace RowMapping

namespace Shape

variable {shape : Shape}

/-- No name is declared twice. -/
def NamesDistinct (shape : Shape) : Prop := (shape.properties.map (·.name)).Nodup

theorem nodup_map_name_places (distinct : shape.NamesDistinct) :
    (shape.places.map fun place => (shape.property place).name).Nodup := by
  rw [NamesDistinct, ← shape.map_property_places, List.map_map] at distinct
  exact distinct

theorem first?_name (distinct : shape.NamesDistinct) (place : shape.Place) :
    shape.first? (shape.property place).name = some place := by
  obtain ⟨first, found⟩ := exists_first?_eq_some place
  have same_place : first = place :=
    List.inj_on_of_nodup_map (nodup_map_name_places distinct) (List.mem_finRange first)
      (List.mem_finRange place) (name_of_first?_eq_some found)
  rw [found, same_place]

theorem firsts_filter_places (distinct : shape.NamesDistinct) (chosen : shape.Place → Bool) :
    shape.firsts (shape.places.filter chosen) = shape.places.filter chosen := by
  have names_nodup : ((shape.places.filter chosen).map fun place =>
      (shape.property place).name).Nodup :=
    (List.filter_sublist.map _).nodup (nodup_map_name_places distinct)
  have names_eq := shape.map_name_firsts (shape.places.filter chosen)
  rw [eraseDups_of_nodup names_nodup] at names_eq
  have same_length := congrArg List.length names_eq
  rw [List.length_map, List.length_map] at same_length
  exact (shape.firsts_sublist _).eq_of_length same_length

end Shape

namespace Patch

variable {shape : Shape}

/-- Whether a source lends a cell to a record of its own shape: the property has a column, can be
read and written, and does not have the zero of its type. -/
def lends (source : Record shape) (place : shape.Place) : Bool :=
  let property := shape.property place
  property.isMapped && property.isReadable && property.isWritable &&
    !(source.value place).equals property.type.zero

theorem lends_iff {source : Record shape} {place : shape.Place} :
    lends source place = true ↔
      (shape.property place).isMapped = true ∧ (shape.property place).isReadable = true ∧
        (shape.property place).isWritable = true ∧
          (source.value place).equals (shape.property place).type.zero = false := by
  simp only [lends, Bool.and_eq_true, Bool.not_eq_true', and_assoc]

theorem carries_eq_lends (distinct : shape.NamesDistinct) (source : Record shape)
    (place : shape.Place) : carries shape source place = lends source place := by
  simp only [carries, lends, Shape.accepts, Shape.first?_name distinct place, Option.any_some,
    decide_true, Bool.true_and]

theorem carried_eq_filter (distinct : shape.NamesDistinct) (source : Record shape) :
    carried shape source = shape.places.filter (lends source) := by
  rw [carried, funext (carries_eq_lends distinct source), Shape.firsts_filter_places distinct]

theorem unmatched_self (place : shape.Place) : unmatched shape place = false := by
  obtain ⟨first, found⟩ := Shape.exists_first?_eq_some place
  rw [unmatched, found, Option.isNone_some, Bool.and_false]

theorem ofValue_of_lends {source : Record shape} {place : shape.Place}
    (lent : lends source place = true) :
    (shape.property place).type.ofValue (source.value place) = .ok (source.cell place) := by
  obtain ⟨-, -, isWritable, differs⟩ := lends_iff.mp lent
  rw [← source.reading_of_isWritable isWritable]
  exact FieldType.ofValue_toValue (FieldType.toValue_ne_null_of_differs differs)

theorem converts_of_lends (distinct : shape.NamesDistinct) {source : Record shape}
    {place : shape.Place} (lent : lends source place = true) : Converts shape source place := by
  intro first found
  obtain rfl : place = first := Option.some.inj ((Shape.first?_name distinct place).symm.trans found)
  exact ⟨_, ofValue_of_lends lent⟩

/-- Copying what a source lends lays the source over the record. -/
theorem Copies.cell_eq_ite {source before after : Record shape} (distinct : shape.NamesDistinct)
    (copies : Copies source (carried shape source) before after) (place : shape.Place) :
    after.cell place = if lends source place then source.cell place else before.cell place := by
  rw [carried_eq_filter distinct] at copies
  split
  · rename_i lent
    have member : place ∈ shape.places.filter (lends source) :=
      List.mem_filter.mpr ⟨List.mem_finRange place, lent⟩
    have written := copies.ofValue_eq place member place (Shape.first?_name distinct place)
    exact Except.ok.inj (written.symm.trans (ofValue_of_lends lent))
  · rename_i unlent
    refine copies.cell_eq place fun origin member reached => unlent ?_
    rw [Shape.first?_name distinct origin] at reached
    rw [← Option.some.inj reached]
    exact (List.mem_filter.mp member).2

theorem not_lends_of_zero {source : Record shape} {place : shape.Place}
    (unset : (source.value place).equals (shape.property place).type.zero = true) :
    ¬ lends source place = true := by
  intro lent
  obtain ⟨-, -, -, differs⟩ := lends_iff.mp lent
  rw [unset] at differs
  cases differs

theorem equals_zero_blank (place : shape.Place) :
    ((Record.blank shape).value place).equals (shape.property place).type.zero = true :=
  FieldType.equals_zero _

variable (cache : AccessorCache) (before : Record shape)

/-- A patch within one shape goes through, records what is lent and lays it over the target. -/
theorem exists_apply_overlay (distinct : shape.NamesDistinct) (source : Record shape) :
    ∃ changes, (apply cache before source).1 = .ok changes ∧
      changes.names = (shape.places.filter (lends source)).map
        (fun place => (shape.property place).name) ∧
      ∀ place, changes.target.cell place =
        if lends source place then source.cell place else before.cell place := by
  have matched : shape.places.find? (unmatched shape) = none := by
    rw [List.find?_eq_none]
    intro place _
    rw [unmatched_self]
    exact Bool.false_ne_true
  have converts : ∀ origin ∈ carried shape source, Converts shape source origin := by
    rw [carried_eq_filter distinct]
    exact fun origin member => converts_of_lends distinct (List.mem_filter.mp member).2
  obtain ⟨changes, applied⟩ := (outcome_apply cache before source).exists_eq_ok matched converts
  refine ⟨changes, applied, ?_, (copies_of_apply applied).cell_eq_ite distinct⟩
  rw [names_of_apply applied, carried_eq_filter distinct]

theorem apply_of_zero (distinct : shape.NamesDistinct) {source : Record shape}
    (unset : ∀ place, (source.value place).equals (shape.property place).type.zero = true) :
    (apply cache before source).1 = .ok (.on before) := by
  obtain ⟨changes, applied, names_eq, cell_eq⟩ := exists_apply_overlay cache before distinct source
  have nothing_lent : shape.places.filter (lends source) = [] :=
    List.filter_eq_nil_iff.mpr fun place _ => not_lends_of_zero (unset place)
  rw [nothing_lent, List.map_nil] at names_eq
  have target_eq : changes.target = before :=
    Record.ext (fun place => (cell_eq place).trans (if_neg (not_lends_of_zero (unset place))))
      (copies_of_apply applied).getters_eq
  have unchanged : changes = .on before := ChangeSet.ext target_eq names_eq
  rw [applied, unchanged]

/-- Where no name is declared twice, a patch within one shape never fails. It records, in order of
declaration, the names of the properties that have a column, can be read and written and differ from
zero in the source; their cells and readings become those of the source, and all other cells stay.
A source without such cells, like one that is not set at all, changes nothing, nor does a copy. -/
theorem overlays_of_apply (distinct : shape.NamesDistinct) (source : Record shape) :
    (∃ changes, (apply cache before source).1 = .ok changes ∧
      changes.names = (shape.places.filter (lends source)).map
        (fun place => (shape.property place).name) ∧
      (∀ place, changes.target.cell place =
        if lends source place then source.cell place else before.cell place) ∧
      ∀ place, lends source place = true →
        changes.target.supply? (shape.property place).name = some (source.value place)) ∧
    ((∀ place, (source.value place).equals (shape.property place).type.zero = true) →
      (apply cache before source).1 = .ok (.on before)) ∧
    (apply cache before (.blank shape)).1 = .ok (.on before) ∧
    ∃ changes, (apply cache before before).1 = .ok changes ∧ changes.target = before := by
  refine ⟨?_, apply_of_zero cache before distinct,
    apply_of_zero cache before distinct equals_zero_blank, ?_⟩
  · obtain ⟨changes, applied, names_eq, cell_eq⟩ :=
      exists_apply_overlay cache before distinct source
    refine ⟨changes, applied, names_eq, cell_eq, fun place lent => ?_⟩
    obtain ⟨-, readable, isWritable, -⟩ := lends_iff.mp lent
    have found := Shape.first?_name distinct place
    have value_eq : changes.target.value place = source.value place := by
      rw [Record.value, Record.value, Record.reading_of_isWritable _ isWritable,
        Record.reading_of_isWritable _ isWritable, cell_eq, if_pos lent]
    rw [Record.supply?_of_first? found ((Shape.supplies_eq found).trans readable), value_eq]
  · obtain ⟨changes, applied, -, cell_eq⟩ := exists_apply_overlay cache before distinct before
    exact ⟨changes, applied, Record.ext (fun place => (cell_eq place).trans (ite_self _))
      (copies_of_apply applied).getters_eq⟩

/-- A gauge with two readings, a level that may be unknown or out of range, a remark without column,
a sum that cannot be written and a code that cannot be read. -/
def gauge : Shape where
  name := "Gauge"
  properties :=
    [{ name := "Upper", type := .float64 }, { name := "Lower", type := .float64 },
     { name := "Level", type := .optional (.optional (.integer .thirtyTwo)) },
     { name := "Remark", type := .text, flags := { notMapped := true } },
     { name := "Sum", type := .integer .sixtyFour, access := .readOnly },
     { name := "Code", type := .text, access := .writeOnly }]

/-- An upper reading that is no number, a lower one of negative zero, a level that is known to be
out of range, and something in every other cell. -/
def gauged : Record gauge :=
  let upper : Binary64 := ⟨0x7FF8000000000000⟩
  let lower : Binary64 := ⟨0x8000000000000000⟩
  let level : Option (Option Int32) := some none
  let sum : Int64 := 12
  let readings := ((Record.blank gauge).put (0 : Fin 6) upper).put (1 : Fin 6) lower
  let leveled := readings.put (2 : Fin 6) level
  ((leveled.put (3 : Fin 6) "worn").put (4 : Fin 6) sum).put (5 : Fin 6) "A4"

/-- Only the upper reading is laid over; the target keeps its level. -/
theorem overlays_of_apply_gauged :
    let level : Option (Option Int32) := some (some 3)
    let before := (Record.blank gauge).put (2 : Fin 6) level
    gauge.NamesDistinct ∧
      ∃ changes, (apply .empty before gauged).1 = .ok changes ∧ changes.names = ["Upper"] ∧
        changes.target.cell (0 : Fin 6) = (⟨0x7FF8000000000000⟩ : Binary64) ∧
        changes.target.cell (2 : Fin 6) = level := by
  intro level before
  have distinct : gauge.NamesDistinct := by
    unfold Shape.NamesDistinct
    decide
  obtain ⟨⟨changes, applied, names_eq, cell_eq, -⟩, -⟩ :=
    overlays_of_apply .empty before distinct gauged
  exact ⟨distinct, changes, applied, names_eq, cell_eq (0 : Fin 6), cell_eq (2 : Fin 6)⟩

end Patch

end RowMapping
