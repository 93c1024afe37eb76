import RowMapping.Proofs.Distinct
import RowMapping.StatementSet

/-!
# What an accepted mapping looks like

Reflection keeps the declarations that have columns, in their order. A mapping that it accepts has
at least one of them, no name and no column twice, and only names that can be parameters; whatever
is not mapped leaves no trace.
-/

namespace RowMapping

/-! ## Steps that succeed -/

theorem map_eq_ok {ε α β : Type} {attempt : Except ε α} {step : α → β} {result : β}
    (succeeded : attempt.map step = .ok result) :
    ∃ value, attempt = .ok value ∧ step value = result := by
  cases attempt with
  | error error => cases succeeded
  | ok value =>
      cases succeeded
      exact ⟨value, rfl, rfl⟩

theorem bind_eq_ok {ε α β : Type} {attempt : Except ε α} {step : α → Except ε β} {result : β}
    (succeeded : attempt.bind step = .ok result) :
    ∃ value, attempt = .ok value ∧ step value = .ok result := by
  cases attempt with
  | error error => cases succeeded
  | ok value => exact ⟨value, rfl, succeeded⟩

/-! ## The declarations that statements see -/

namespace Shape

variable (shape : Shape)

/-- The declarations that have columns. -/
def mapped : List Property := shape.properties.filter (·.isMapped)

/-- The mapped declarations that the database does not generate. -/
def written : List Property := shape.mapped.filter fun property => !property.flags.generated

/-- The mapped declarations that identify the row. -/
def keys : List Property := shape.mapped.filter (·.flags.key)

/-- The mapped declarations of names, in the order of the names. -/
def named (names : List String) : List Property :=
  names.filterMap fun name => shape.mapped.find? fun property => property.name == name

/-- The first of some names that no mapped declaration has. -/
def unmapped? (names : List String) : Option String :=
  names.find? fun name => (shape.mapped.find? fun property => property.name == name).isNone

theorem mem_mapped {property : Property} :
    property ∈ shape.mapped ↔ property ∈ shape.properties ∧ property.isMapped = true :=
  List.mem_filter

theorem mem_mapped_of_mem_written {property : Property} (member : property ∈ shape.written) :
    property ∈ shape.mapped :=
  (List.mem_filter.mp member).1

theorem mem_mapped_of_mem_keys {property : Property} (member : property ∈ shape.keys) :
    property ∈ shape.mapped :=
  (List.mem_filter.mp member).1

theorem mem_mapped_of_mem_named {names : List String} {property : Property}
    (member : property ∈ shape.named names) : property ∈ shape.mapped := by
  obtain ⟨name, -, found⟩ := List.mem_filterMap.mp member
  exact List.mem_of_find?_eq_some found

theorem unmapped?_eq_some {names : List String} {name : String}
    (unmapped : shape.unmapped? names = some name) :
    name ∈ names ∧ ∀ property ∈ shape.mapped, property.name ≠ name :=
  ⟨List.mem_of_find?_eq_some unmapped, by simpa using List.find?_some unmapped⟩

theorem named_cons {name : String} {property : Property}
    (found : (shape.mapped.find? fun property => property.name == name) = some property)
    (names : List String) : shape.named (name :: names) = property :: shape.named names :=
  List.filterMap_cons_some found

theorem unmapped?_cons (name : String) (names : List String) :
    shape.unmapped? (name :: names) =
      if (shape.mapped.find? fun property => property.name == name).isNone then some name
      else shape.unmapped? names := by
  rw [unmapped?, List.find?_cons]
  cases (shape.mapped.find? fun property => property.name == name).isNone <;> rfl

theorem map_name_named {names : List String} (mapped : shape.unmapped? names = none) :
    (shape.named names).map (·.name) = names := by
  induction names with
  | nil => rfl
  | cons name names ih =>
      rw [unmapped?_cons] at mapped
      cases found : shape.mapped.find? fun property => property.name == name with
      | none =>
          rw [found] at mapped
          cases mapped
      | some property =>
          rw [found] at mapped
          have name_eq : property.name = name := by simpa using List.find?_some found
          rw [shape.named_cons found]
          exact congrArg₂ _ name_eq (ih mapped)

end Shape

def Property.pairing (property : Property) : Pairing := ⟨property.columnName, property.name⟩

/-- The columns of declarations with their names. -/
def Property.pairings (properties : List Property) : List Pairing := properties.map pairing

namespace TableMapping

/-- Statements can be written for the declarations. -/
structure Sound (properties : List Property) : Prop where
  /-- No two of them have one name. -/
  names_nodup : (properties.map (·.name)).Nodup
  /-- No two of them have one column. -/
  columns_nodup : (properties.map (·.columnName)).Nodup
  /-- Every name can be a parameter. -/
  isParameterName : ∀ property ∈ properties, isParameterName property.name = true

theorem Sound.nil : Sound [] :=
  ⟨List.nodup_nil, List.nodup_nil, fun _ member => absurd member List.not_mem_nil⟩

theorem Sound.snoc {properties : List Property} {property : Property} (sound : Sound properties)
    (valid : RowMapping.isParameterName property.name = true)
    (name_notin : property.name ∉ properties.map (·.name))
    (column_notin : property.columnName ∉ properties.map (·.columnName)) :
    Sound (properties ++ [property]) where
  names_nodup := by
    rw [List.map_append]
    exact nodup_append_singleton sound.names_nodup name_notin
  columns_nodup := by
    rw [List.map_append]
    exact nodup_append_singleton sound.columns_nodup column_notin
  isParameterName := by
    intro other member
    rcases List.mem_append.mp member with before | last
    · exact sound.isParameterName other before
    · rw [List.mem_singleton.mp last]
      exact valid

theorem Sound.eq_of_name_eq {properties : List Property} (sound : Sound properties)
    {left right : Property} (left_mem : left ∈ properties) (right_mem : right ∈ properties)
    (same_name : left.name = right.name) : left = right :=
  List.inj_on_of_nodup_map sound.names_nodup left_mem right_mem same_name

theorem Sound.nodup_map_name {properties selected : List Property} (sound : Sound properties)
    (selection : selected.Sublist properties) : (selected.map (·.name)).Nodup :=
  (selection.map _).nodup sound.names_nodup

theorem map_name_ofProperty (object : ObjectPath) (properties : List Property) :
    (properties.map (MappedProperty.ofProperty object)).map (·.name) = properties.map (·.name) := by
  rw [List.map_map]
  rfl

theorem map_column_ofProperty (object : ObjectPath) (properties : List Property) :
    (properties.map (MappedProperty.ofProperty object)).map (·.column) =
      properties.map (·.columnName) := by
  rw [List.map_map]
  rfl

/-- What a mapping holds that reflection accepts. -/
structure Reflects (mapping : TableMapping) (model : Model) (traits : DialectTraits) : Prop where
  /-- It names the model. -/
  model_eq : mapping.model = model.name
  /-- The path of the table is the model's, with the default schema where none is named. -/
  path_eq : mapping.path = pathOf model traits
  /-- Its properties are the mapped declarations, in order. -/
  properties_eq : mapping.properties = model.mapped.map (.ofProperty (pathOf model traits))
  /-- There is at least one. -/
  mapped_ne : model.mapped ≠ []
  /-- Statements can be written for them. -/
  sound : Sound model.mapped

namespace Reflects

variable {mapping : TableMapping} {model : Model} {traits : DialectTraits}

theorem properties_ne (reflects : mapping.Reflects model traits) : mapping.properties ≠ [] := by
  rw [reflects.properties_eq]
  simpa using reflects.mapped_ne

theorem writable_eq (reflects : mapping.Reflects model traits) :
    mapping.writable = model.written.map (.ofProperty (pathOf model traits)) := by
  rw [writable, reflects.properties_eq, List.filter_map]
  rfl

theorem keys_eq (reflects : mapping.Reflects model traits) :
    mapping.keys = model.keys.map (.ofProperty (pathOf model traits)) := by
  rw [keys, reflects.properties_eq, List.filter_map]
  rfl

theorem find?_eq (reflects : mapping.Reflects model traits) (name : String) :
    mapping.find? name = (model.mapped.find? fun property => property.name == name).map
      (.ofProperty (pathOf model traits)) := by
  rw [find?, reflects.properties_eq, List.find?_map]
  rfl

/-- Names resolve unless one of them is not mapped; the first such name is reported. -/
theorem resolve_eq (reflects : mapping.Reflects model traits) (names : List String) :
    mapping.resolve names =
      match model.unmapped? names with
      | some name => .error (.lookup ⟨model.name, name⟩)
      | none => .ok ((model.named names).map (.ofProperty (pathOf model traits))) := by
  induction names with
  | nil => rfl
  | cons name names ih =>
      rw [resolve, reflects.find?_eq, reflects.model_eq, ih, Shape.unmapped?_cons]
      cases found : model.mapped.find? fun property => property.name == name with
      | none => rfl
      | some property =>
          rw [model.named_cons found]
          cases model.unmapped? names <;> rfl

/-- Names that resolve are names of mapped declarations. -/
theorem resolve_eq_ok (reflects : mapping.Reflects model traits) {names : List String}
    {properties : List MappedProperty} (resolved : mapping.resolve names = .ok properties) :
    properties = (model.named names).map (.ofProperty (pathOf model traits)) ∧
      (model.named names).map (·.name) = names := by
  rw [reflects.resolve_eq] at resolved
  cases mapped : model.unmapped? names with
  | some name =>
      rw [mapped] at resolved
      cases resolved
  | none =>
      rw [mapped] at resolved
      cases resolved
      exact ⟨rfl, model.map_name_named mapped⟩

/-- A name that does not resolve is the name of no mapped declaration. -/
theorem resolve_eq_error (reflects : mapping.Reflects model traits) {names : List String}
    {error : Error} (failed : mapping.resolve names = .error error) :
    ∃ name ∈ names, (∀ property ∈ model.mapped, property.name ≠ name) ∧
      error = .lookup ⟨model.name, name⟩ := by
  rw [reflects.resolve_eq] at failed
  cases unmapped : model.unmapped? names with
  | none =>
      rw [unmapped] at failed
      cases failed
  | some name =>
      rw [unmapped] at failed
      cases failed
      obtain ⟨member, missing⟩ := model.unmapped?_eq_some unmapped
      exact ⟨name, member, missing, rfl⟩

theorem exists_mapped_of_resolve (reflects : mapping.Reflects model traits) {names : List String}
    {properties : List MappedProperty} (resolved : mapping.resolve names = .ok properties)
    {name : String} (member : name ∈ names) :
    ∃ property ∈ model.mapped, property.name = name := by
  obtain ⟨-, names_eq⟩ := reflects.resolve_eq_ok resolved
  rw [← names_eq] at member
  obtain ⟨property, named, rfl⟩ := List.mem_map.mp member
  exact ⟨property, model.mem_mapped_of_mem_named named, rfl⟩

end Reflects

end TableMapping

namespace Shape

variable {shape : Shape}

theorem find?_mapped (sound : TableMapping.Sound shape.mapped) {property : Property}
    (mapped : property ∈ shape.mapped) :
    (shape.mapped.find? fun other => other.name == property.name) = some property := by
  have declared : (shape.mapped.find? fun other => other.name == property.name).isSome := by
    rw [List.find?_isSome]
    exact ⟨property, mapped, beq_self_eq_true _⟩
  obtain ⟨other, found⟩ := Option.isSome_iff_exists.mp declared
  have same_name : other.name = property.name := by simpa using List.find?_some found
  rw [found, sound.eq_of_name_eq (List.mem_of_find?_eq_some found) mapped same_name]

theorem named_map_name (sound : TableMapping.Sound shape.mapped) {properties : List Property}
    (mapped : ∀ property ∈ properties, property ∈ shape.mapped) :
    shape.named (properties.map (·.name)) = properties := by
  induction properties with
  | nil => rfl
  | cons property properties ih =>
      have found := find?_mapped sound (mapped property List.mem_cons_self)
      rw [List.map_cons, shape.named_cons found,
        ih fun other member => mapped other (List.mem_cons_of_mem _ member)]

theorem unmapped?_map_name {properties : List Property}
    (mapped : ∀ property ∈ properties, property ∈ shape.mapped) :
    shape.unmapped? (properties.map (·.name)) = none := by
  refine List.find?_eq_none.mpr fun name member isNone => ?_
  obtain ⟨property, selected, rfl⟩ := List.mem_map.mp member
  have missing := List.find?_eq_none.mp (Option.isNone_iff_eq_none.mp isNone)
  exact missing property (mapped property selected) (beq_self_eq_true _)

theorem mem_named_iff (sound : TableMapping.Sound shape.mapped) {names : List String}
    {property : Property} :
    property ∈ shape.named names ↔ property ∈ shape.mapped ∧ property.name ∈ names := by
  rw [named, List.mem_filterMap]
  constructor
  · rintro ⟨name, member, found⟩
    obtain rfl : property.name = name := by simpa using List.find?_some found
    exact ⟨List.mem_of_find?_eq_some found, member⟩
  · rintro ⟨mapped, member⟩
    exact ⟨property.name, member, find?_mapped sound mapped⟩

end Shape

end RowMapping
