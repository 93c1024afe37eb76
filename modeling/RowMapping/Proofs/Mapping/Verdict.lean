import Mathlib.Data.List.Induction
import RowMapping.Proofs.Mapping.Reflection

/-!
# Well-formed mappings and first defects

Reflection decides between two cases that can be told apart on the declarations alone. A model is
well-formed if its table has a name and can be reached and its mapped declarations can appear
together in statements. Any other model has a first defect: in its path before its declarations, and
among these in the first one that does not fit those before it.
-/

namespace RowMapping

/-- A dialect reaches the database of a model, if the model names one. -/
def DialectTraits.Admits (traits : DialectTraits) (model : Model) : Prop :=
  model.database = none ∨ traits.crossDatabase = true

theorem DialectTraits.not_admits {traits : DialectTraits} {model : Model}
    (unreachable : ¬ traits.Admits model) :
    ∃ database, model.database = some database ∧ traits.crossDatabase = false := by
  obtain ⟨unnamed, barred⟩ := not_or.mp unreachable
  obtain ⟨database, named⟩ := Option.ne_none_iff_exists'.mp unnamed
  exact ⟨database, named, by simpa using barred⟩

namespace TableMapping

/-- What is wrong with a declaration that comes after others. A name that cannot be a parameter
counts before a repeated name, and that before a repeated column. -/
inductive Faulty (earlier : List Property) (property : Property) : Defect → Prop
  | unusableName (unusable : isParameterName property.name = false) :
      Faulty earlier property (.unusableName property.name)
  | repeatedProperty (usable : isParameterName property.name = true)
      (repeated : property.name ∈ earlier.map (·.name)) :
      Faulty earlier property (.repeatedProperty property.name)
  | repeatedColumn (usable : isParameterName property.name = true)
      (name_notin : property.name ∉ earlier.map (·.name))
      (repeated : property.columnName ∈ earlier.map (·.columnName)) :
      Faulty earlier property (.repeatedColumn property.columnName)

/-- Statements can be written for a model under a dialect. -/
structure WellFormed (model : Model) (traits : DialectTraits) : Prop where
  /-- The table has a name. -/
  named : Text.trim model.table ≠ ""
  /-- Its database can be reached. -/
  admits : traits.Admits model
  /-- No two mapped declarations collide, and all of them can be parameters. -/
  sound : Sound model.mapped
  /-- There is something to read and write. -/
  mapped_ne : model.mapped ≠ []

/-- The first defect of a model under a dialect. -/
inductive FirstDefect (model : Model) (traits : DialectTraits) : Defect → Prop
  | emptyTableName (blank : Text.trim model.table = "") : FirstDefect model traits .emptyTableName
  | unreachableDatabase {database : String} (named : Text.trim model.table ≠ "")
      (database_eq : model.database = some database) (barred : traits.crossDatabase = false) :
      FirstDefect model traits (.unreachableDatabase traits.name database)
  /-- A mapped declaration does not fit those before it, which fit together. -/
  | faulty {earlier later : List Property} {property : Property} {defect : Defect}
      (named : Text.trim model.table ≠ "") (admits : traits.Admits model)
      (split : model.mapped = earlier ++ property :: later) (sound : Sound earlier)
      (faulty : Faulty earlier property defect) : FirstDefect model traits defect
  | nothingMapped (named : Text.trim model.table ≠ "") (admits : traits.Admits model)
      (mapped_eq : model.mapped = []) : FirstDefect model traits .nothingMapped

/-! ## One of the two cases holds -/

theorem faulty_or_sound {earlier : List Property} (sound : Sound earlier) (property : Property) :
    (∃ defect, Faulty earlier property defect) ∨ Sound (earlier ++ [property]) := by
  by_cases usable : isParameterName property.name = true
  · by_cases name_notin : property.name ∉ earlier.map (·.name)
    · by_cases column_notin : property.columnName ∉ earlier.map (·.columnName)
      · exact .inr (sound.snoc usable name_notin column_notin)
      · exact .inl ⟨_, .repeatedColumn usable name_notin (Classical.not_not.mp column_notin)⟩
    · exact .inl ⟨_, .repeatedProperty usable (Classical.not_not.mp name_notin)⟩
  · exact .inl ⟨_, .unusableName (by simpa using usable)⟩

/-- Declarations fit together, or there is a first one that does not fit. -/
theorem sound_or_exists_faulty (properties : List Property) :
    Sound properties ∨ ∃ earlier property later defect,
      properties = earlier ++ property :: later ∧ Sound earlier ∧
        Faulty earlier property defect := by
  induction properties using List.reverseRecOn with
  | nil => exact .inl .nil
  | append_singleton properties last ih =>
      rcases ih with sound | ⟨earlier, property, later, defect, rfl, sound, faulty⟩
      · rcases faulty_or_sound sound last with ⟨defect, faulty⟩ | extended
        · exact .inr ⟨properties, last, [], defect, rfl, sound, faulty⟩
        · exact .inl extended
      · exact .inr ⟨earlier, property, later ++ [last], defect, by simp, sound, faulty⟩

theorem wellFormed_or_firstDefect (model : Model) (traits : DialectTraits) :
    WellFormed model traits ∨ ∃ defect, FirstDefect model traits defect := by
  by_cases named : Text.trim model.table = ""
  · exact .inr ⟨_, .emptyTableName named⟩
  by_cases admits : traits.Admits model
  · rcases sound_or_exists_faulty model.mapped with
      sound | ⟨earlier, property, later, defect, split, sound, faulty⟩
    · by_cases mapped_eq : model.mapped = []
      · exact .inr ⟨_, .nothingMapped named admits mapped_eq⟩
      · exact .inl ⟨named, admits, sound, mapped_eq⟩
    · exact .inr ⟨defect, .faulty named admits split sound faulty⟩
  · obtain ⟨database, database_eq, barred⟩ := DialectTraits.not_admits admits
    exact .inr ⟨_, .unreachableDatabase named database_eq barred⟩

/-! ## What reflection makes of either -/

theorem mapProperties_filter (object : ObjectPath) (before : List MappedProperty)
    (declared : List Property) :
    mapProperties object before (declared.filter (·.isMapped)) =
      mapProperties object before declared := by
  induction declared generalizing before with
  | nil => rfl
  | cons property declared ih =>
      by_cases isMapped : property.isMapped = true
      · rw [List.filter_cons_of_pos isMapped]
        simp only [mapProperties, ih]
      · rw [List.filter_cons_of_neg isMapped, ih, mapProperties, if_pos (by simpa using isMapped)]

/-- Among declarations that fit together each fits those before it. -/
theorem Sound.middle {before later : List Property} {property : Property}
    (sound : Sound (before ++ property :: later)) :
    RowMapping.isParameterName property.name = true ∧ property.name ∉ before.map (·.name) ∧
      property.columnName ∉ before.map (·.columnName) := by
  have notin {field : Property → String} (nodup : ((before ++ property :: later).map field).Nodup) :
      field property ∉ before.map field := by
    rw [List.map_append, List.map_cons] at nodup
    exact fun member =>
      (List.nodup_cons.mp (List.nodup_middle.mp nodup)).1 (List.mem_append_left _ member)
  exact ⟨sound.isParameterName property (List.mem_append_right _ List.mem_cons_self),
    notin sound.names_nodup, notin sound.columns_nodup⟩

theorem mapProperties_append (object : ObjectPath) {before more : List Property}
    (sound : Sound (before ++ more)) (isMapped : ∀ property ∈ more, property.isMapped = true)
    (rest : List Property) :
    mapProperties object (before.map (.ofProperty object)) (more ++ rest) =
      mapProperties object ((before ++ more).map (.ofProperty object)) rest := by
  induction more generalizing before with
  | nil => rw [List.nil_append, List.append_nil]
  | cons property more ih =>
      obtain ⟨usable, name_notin, column_notin⟩ := sound.middle
      have mapped := isMapped property List.mem_cons_self
      have later_mapped : ∀ other ∈ more, other.isMapped = true :=
        fun other member => isMapped other (List.mem_cons_of_mem _ member)
      have extended : before ++ property :: more = (before ++ [property]) ++ more := by simp
      rw [extended] at sound ⊢
      rw [List.cons_append, mapProperties, map_name_ofProperty, map_column_ofProperty, mapped,
        usable, if_neg name_notin, if_neg column_notin, ← ih sound later_mapped, List.map_append]
      rfl

/-- The scan stops at a declaration that does not fit. -/
theorem mapProperties_of_faulty (object : ObjectPath) {before later : List Property}
    {property : Property} {defect : Defect} (isMapped : property.isMapped = true)
    (faulty : Faulty before property defect) :
    mapProperties object (before.map (.ofProperty object)) (property :: later) = .error defect := by
  rw [mapProperties, map_name_ofProperty, map_column_ofProperty, isMapped]
  cases faulty with
  | unusableName unusable =>
      rw [unusable]
      rfl
  | repeatedProperty usable repeated =>
      rw [usable, if_pos repeated]
      rfl
  | repeatedColumn usable name_notin repeated =>
      rw [usable, if_neg name_notin, if_pos repeated]
      rfl

variable {model : Model} {traits : DialectTraits}

theorem not_isBlankText (named : Text.trim model.table ≠ "") :
    ¬ Text.isBlankText model.table = true :=
  fun blank => named ((Text.trim_eq_empty_iff _).mpr blank)

/-- With a name and a path in order, the declarations decide. -/
theorem propertiesOf_of_admits (named : Text.trim model.table ≠ "") (admits : traits.Admits model) :
    propertiesOf model traits =
      match mapProperties (pathOf model traits) [] model.mapped with
      | .ok [] => .error .nothingMapped
      | other => other := by
  unfold propertiesOf
  rw [if_neg (not_isBlankText named), Shape.mapped, mapProperties_filter]
  cases database_eq : model.database with
  | none => rfl
  | some database =>
      cases reached : traits.crossDatabase with
      | true => rfl
      | false => simp [DialectTraits.Admits, database_eq, reached] at admits

theorem propertiesOf_of_wellFormed (wellFormed : WellFormed model traits) :
    propertiesOf model traits = .ok (model.mapped.map (.ofProperty (pathOf model traits))) := by
  have isMapped : ∀ property ∈ model.mapped, property.isMapped = true :=
    fun property member => (model.mem_mapped.mp member).2
  have scanned : mapProperties (pathOf model traits) [] model.mapped =
      .ok (model.mapped.map (.ofProperty (pathOf model traits))) := by
    have taken := @mapProperties_append (pathOf model traits) [] _ wellFormed.sound isMapped []
    rw [List.append_nil] at taken
    exact taken
  rw [propertiesOf_of_admits wellFormed.named wellFormed.admits, scanned]
  cases mapped_eq : model.mapped with
  | nil => exact absurd mapped_eq wellFormed.mapped_ne
  | cons property properties => rfl

theorem propertiesOf_of_firstDefect {defect : Defect} (first : FirstDefect model traits defect) :
    propertiesOf model traits = .error defect := by
  cases first with
  | emptyTableName blank => rw [propertiesOf, if_pos ((Text.trim_eq_empty_iff _).mp blank)]
  | unreachableDatabase named database_eq barred =>
      rw [propertiesOf, if_neg (not_isBlankText named), database_eq, barred]
  | @faulty earlier later property _ named admits split sound faulty =>
      have isMapped : ∀ other ∈ earlier ++ property :: later, other.isMapped = true := by
        rw [← split]
        exact fun other member => (model.mem_mapped.mp member).2
      have scanned : mapProperties (pathOf model traits) [] model.mapped = .error defect := by
        have taken := @mapProperties_append (pathOf model traits) [] _ sound
          (fun other member => isMapped other (List.mem_append_left _ member)) (property :: later)
        rw [split]
        exact taken.trans (mapProperties_of_faulty _
          (isMapped property (List.mem_append_right _ List.mem_cons_self)) faulty)
      rw [propertiesOf_of_admits named admits, scanned]
  | nothingMapped named admits mapped_eq =>
      rw [propertiesOf_of_admits named admits, mapped_eq]
      rfl

variable {dialect : Dialect}

/-- A model is mapped exactly if it is well-formed, and then by its mapped declarations. -/
theorem reflect_eq_ok_iff {mapping : TableMapping} :
    reflect model dialect = .ok mapping ↔
      WellFormed model dialect.traits ∧
        mapping = ⟨model.name, pathOf model dialect.traits,
          model.mapped.map (.ofProperty (pathOf model dialect.traits))⟩ := by
  rw [reflect]
  rcases wellFormed_or_firstDefect model dialect.traits with wellFormed | ⟨defect, first⟩
  · rw [propertiesOf_of_wellFormed wellFormed]
    simp [wellFormed, eq_comm]
  · rw [propertiesOf_of_firstDefect first]
    refine iff_of_false (fun accepted => nomatch accepted) fun claimed => ?_
    have rejected := propertiesOf_of_firstDefect first
    rw [propertiesOf_of_wellFormed claimed.1] at rejected
    cases rejected

/-- A model is rejected exactly if it has a first defect, and then for that defect. -/
theorem reflect_eq_error_iff {error : Error} :
    reflect model dialect = .error error ↔
      ∃ defect, FirstDefect model dialect.traits defect ∧ error = .ofDefect model.name defect := by
  constructor
  · intro rejected
    rcases wellFormed_or_firstDefect model dialect.traits with wellFormed | ⟨defect, first⟩
    · rw [reflect_eq_ok_iff.mpr ⟨wellFormed, rfl⟩] at rejected
      cases rejected
    · rw [reflect, propertiesOf_of_firstDefect first] at rejected
      cases rejected
      exact ⟨defect, first, rfl⟩
  · rintro ⟨defect, first, rfl⟩
    rw [reflect, propertiesOf_of_firstDefect first]

theorem reflects_of_reflect {mapping : TableMapping}
    (accepted : reflect model dialect = .ok mapping) : mapping.Reflects model dialect.traits := by
  obtain ⟨wellFormed, rfl⟩ := reflect_eq_ok_iff.mp accepted
  exact ⟨rfl, rfl, rfl, wellFormed.mapped_ne, wellFormed.sound⟩

end TableMapping

end RowMapping
