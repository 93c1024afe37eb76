import RowMapping.Proofs.Mapping.Verdict
import RowMapping.Proofs.RecordedNames
import RowMapping.Proofs.Sql.Rendering

/-!
# The forms of statements

All that a statement set writes has one of six forms. The command of a form is fixed by the mapping
before any dialect comes in; a dialect only renders it. For a mapping that reflection has accepted,
the declarations of the model alone decide whether there is a command, which one it is, which
properties it binds and, if there is none, what stands in the way.
-/

namespace RowMapping

/-- What a statement set can be asked to write. -/
inductive StatementForm where
  /-- A canonical statement. -/
  | canonical (kind : StatementKind)
  /-- An insertion of the named properties. -/
  | insertOf (names : List String)
  /-- An update of the named properties. -/
  | updateOf (names : List String)
  deriving DecidableEq, Repr

namespace StatementSet

variable (set : StatementSet)

def write : StatementForm → Except Error String
  | .canonical kind => set.text kind
  | .insertOf names => set.insertPartial names
  | .updateOf names => set.updatePartial names

/-- The properties that the text of a form binds. -/
def binds : StatementForm → Except Error (List String)
  | .canonical kind => .ok (set.parameters kind)
  | .insertOf names => set.insertPartialParameters names
  | .updateOf names => set.updatePartialParameters names

end StatementSet

namespace TableMapping

variable (mapping : TableMapping)

/-- An insertion of some properties. -/
def insertion (properties : List MappedProperty) : Command :=
  .insert mapping.path.segments (pairings properties) (pairings mapping.properties)

/-- An update of some properties, matched on the keys. -/
def updating (properties : List MappedProperty) : Command :=
  .update mapping.path.segments (pairings properties) (pairings mapping.keys)
    (pairings mapping.properties)

/-- A deletion, matched on every mapped property. -/
def deletion : Command := .delete mapping.path.segments (pairings mapping.properties)

/-- A selection, matched on the keys. -/
def selection : Command :=
  .select mapping.path.segments (pairings mapping.properties) (pairings mapping.keys)

/-- The command of a form, or the reason why there is none. -/
def command : StatementForm → Except Error Command
  | .canonical .insert => .ok (mapping.insertion mapping.writable)
  | .canonical .update =>
      match mapping.keyed with
      | .error error => .error error
      | .ok () =>
          if mapping.writable.isEmpty then .error (mapping.defect .nothingUpdatable)
          else .ok (mapping.updating mapping.writable)
  | .canonical .delete => mapping.keyed.map fun _ => mapping.deletion
  | .canonical .findByKey => mapping.keyed.map fun _ => mapping.selection
  | .insertOf names => (mapping.resolve names).map mapping.insertion
  | .updateOf names =>
      match mapping.keyed with
      | .error error => .error error
      | .ok () =>
          if names.isEmpty then .error (mapping.defect .nothingChanged)
          else (mapping.resolve names).map mapping.updating

theorem mapping_ofMapping (dialect : Dialect) :
    (StatementSet.ofMapping mapping dialect).mapping = mapping := rfl

/-- The shared parts that a statement set keeps are those of a renderer of its mapping. -/
theorem renderer_ofMapping (dialect : Dialect) :
    (StatementSet.ofMapping mapping dialect).renderer = mapping.renderer dialect.traits := rfl

theorem render_insertion (traits : DialectTraits) (properties : List MappedProperty) :
    (mapping.insertion properties).render traits =
      (mapping.renderer traits).insert (pairings properties) := rfl

theorem render_updating (traits : DialectTraits) (properties : List MappedProperty) :
    (mapping.updating properties).render traits =
      (mapping.renderer traits).update (pairings properties) (pairings mapping.keys) := rfl

/-- A statement set writes the commands of its mapping in its dialect, whether it has rendered them
as a whole or takes up the parts that it keeps. -/
theorem write_ofMapping (dialect : Dialect) (form : StatementForm) :
    (StatementSet.ofMapping mapping dialect).write form =
      (mapping.command form).map (·.render dialect.traits) := by
  cases form with
  | canonical kind =>
      cases kind with
      | insert => rfl
      | update =>
          simp only [StatementSet.write, StatementSet.text, StatementSet.ofMapping, command]
          cases mapping.keyed with
          | error error => rfl
          | ok => cases mapping.writable.isEmpty <;> rfl
      | delete =>
          simp only [StatementSet.write, StatementSet.text, StatementSet.ofMapping, command]
          cases mapping.keyed <;> rfl
      | findByKey =>
          simp only [StatementSet.write, StatementSet.text, StatementSet.ofMapping, command]
          cases mapping.keyed <;> rfl
  | insertOf names =>
      rw [StatementSet.write, StatementSet.insertPartial, mapping_ofMapping, renderer_ofMapping,
        command]
      cases mapping.resolve names with
      | error error => rfl
      | ok properties => exact congrArg Except.ok (mapping.render_insertion _ properties).symm
  | updateOf names =>
      rw [StatementSet.write, StatementSet.updatePartial, mapping_ofMapping, renderer_ofMapping,
        command]
      cases mapping.keyed with
      | error error => rfl
      | ok =>
          cases names.isEmpty with
          | true => rfl
          | false =>
              cases mapping.resolve names with
              | error error => rfl
              | ok properties => exact congrArg Except.ok (mapping.render_updating _ properties).symm

theorem keyed_eq_ok_iff : mapping.keyed = .ok () ↔ mapping.keys ≠ [] := by
  simp [keyed, hasKey]

end TableMapping

/-- No property is named twice. -/
def StatementForm.Distinct : StatementForm → Prop
  | canonical _ => True
  | insertOf names | updateOf names => names.Nodup

theorem Property.map_name_pairings (properties : List Property) :
    (pairings properties).map (·.name) = properties.map (·.name) := by
  rw [pairings, List.map_map]
  rfl

/-- The command of a form on an object, as the declarations of a shape call for it. -/
def Shape.command (shape : Shape) (path : List String) : StatementForm → Command
  | .canonical .insert =>
      .insert path (Property.pairings shape.written) (Property.pairings shape.mapped)
  | .canonical .update =>
      .update path (Property.pairings shape.written) (Property.pairings shape.keys)
        (Property.pairings shape.mapped)
  | .canonical .delete => .delete path (Property.pairings shape.mapped)
  | .canonical .findByKey =>
      .select path (Property.pairings shape.mapped) (Property.pairings shape.keys)
  | .insertOf names =>
      .insert path (Property.pairings (shape.named names)) (Property.pairings shape.mapped)
  | .updateOf names =>
      .update path (Property.pairings (shape.named names)) (Property.pairings shape.keys)
        (Property.pairings shape.mapped)

/-- The declarations whose parameters a form mentions, in the order of the text. -/
def Shape.mentioned (shape : Shape) : StatementForm → List Property
  | .canonical .insert => shape.written
  | .canonical .update => shape.written ++ shape.keys
  | .canonical .delete => shape.mapped
  | .canonical .findByKey => shape.keys
  | .insertOf names => shape.named names
  | .updateOf names => shape.named names ++ shape.keys

/-- The names that a form binds, each once; named properties of an insertion stand as they are. -/
def Shape.listed (shape : Shape) : StatementForm → List String
  | .insertOf names => names
  | form => ((shape.mentioned form).map (·.name)).eraseDups

/-- The reason why nothing that needs a key can be written. -/
def Model.keyless? (model : Model) : Option Error :=
  if model.keys.isEmpty then some (.ofDefect model.name .noKey) else none

/-- The report of the first name that is not mapped. -/
def Model.unknown? (model : Model) (names : List String) : Option Error :=
  (model.unmapped? names).map fun name => .lookup ⟨model.name, name⟩

/-- The reason why a form cannot be written, if there is one. -/
def Model.obstacle? (model : Model) : StatementForm → Option Error
  | .canonical .insert => none
  | .canonical .update =>
      model.keyless?.or
        (if model.written.isEmpty then some (.ofDefect model.name .nothingUpdatable) else none)
  | .canonical .delete | .canonical .findByKey => model.keyless?
  | .insertOf names => model.unknown? names
  | .updateOf names =>
      (model.keyless?.or
        (if names.isEmpty then some (.ofDefect model.name .nothingChanged) else none)).or
          (model.unknown? names)

/-- The reason why the properties that a form binds cannot be listed, if there is one. -/
def Model.unlisted? (model : Model) : StatementForm → Option Error
  | .canonical _ => none
  | .insertOf names | .updateOf names => model.unknown? names

theorem Model.keyless?_eq_none_iff {model : Model} : model.keyless? = none ↔ model.keys ≠ [] := by
  simp [keyless?]

theorem Model.unknown?_eq_none_iff {model : Model} {names : List String} :
    model.unknown? names = none ↔ model.unmapped? names = none :=
  Option.map_eq_none_iff

theorem Model.unmapped?_of_obstacle? {model : Model} {form : StatementForm}
    (free : model.obstacle? form = none) {names : List String}
    (form_eq : form = .insertOf names ∨ form = .updateOf names) :
    model.unmapped? names = none := by
  rcases form_eq with rfl | rfl
  · exact unknown?_eq_none_iff.mp free
  · exact unknown?_eq_none_iff.mp (Option.or_eq_none_iff.mp free).2

theorem Model.unlisted?_of_obstacle? {model : Model} {form : StatementForm}
    (free : model.obstacle? form = none) : model.unlisted? form = none := by
  cases form with
  | canonical kind => rfl
  | insertOf names => exact free
  | updateOf names => exact (Option.or_eq_none_iff.mp free).2

/-- The form is then about one declaration for each of the names, in their order. -/
theorem Model.map_name_named_of_obstacle? {model : Model} {form : StatementForm}
    (free : model.obstacle? form = none) {names : List String}
    (form_eq : form = .insertOf names ∨ form = .updateOf names) :
    (model.named names).map (·.name) = names :=
  model.map_name_named (unmapped?_of_obstacle? free form_eq)

theorem Shape.bound_command (shape : Shape) (path : List String) (form : StatementForm) :
    (shape.command path form).bound = Property.pairings (shape.mentioned form) := by
  cases form with
  | canonical kind =>
      cases kind with
      | update => exact List.map_append.symm
      | insert | delete | findByKey => rfl
  | insertOf names => rfl
  | updateOf names => exact List.map_append.symm

theorem Shape.mem_mapped_of_mem_mentioned {shape : Shape} {form : StatementForm}
    {property : Property} (member : property ∈ shape.mentioned form) :
    property ∈ shape.mapped := by
  cases form with
  | canonical kind =>
      cases kind with
      | insert => exact shape.mem_mapped_of_mem_written member
      | update =>
          rcases List.mem_append.mp member with assigned | matched
          · exact shape.mem_mapped_of_mem_written assigned
          · exact shape.mem_mapped_of_mem_keys matched
      | delete => exact member
      | findByKey => exact shape.mem_mapped_of_mem_keys member
  | insertOf names => exact shape.mem_mapped_of_mem_named member
  | updateOf names =>
      rcases List.mem_append.mp member with assigned | matched
      · exact shape.mem_mapped_of_mem_named assigned
      · exact shape.mem_mapped_of_mem_keys matched

theorem Shape.exists_mapped_of_mem_bound {shape : Shape} {path : List String}
    {form : StatementForm} {pair : Pairing} (member : pair ∈ (shape.command path form).bound) :
    ∃ property ∈ shape.mapped, property.pairing = pair := by
  rw [shape.bound_command] at member
  obtain ⟨property, mentioned, rfl⟩ := List.mem_map.mp member
  exact ⟨property, Shape.mem_mapped_of_mem_mentioned mentioned, rfl⟩

/-- Where no property is named twice, the names that a form binds are those that its text mentions,
each once. -/
theorem Shape.listed_eq {shape : Shape} {form : StatementForm} (distinct : form.Distinct)
    (named_eq : ∀ names, form = .insertOf names → (shape.named names).map (·.name) = names) :
    shape.listed form = ((shape.mentioned form).map (·.name)).eraseDups := by
  cases form with
  | insertOf names =>
      rw [mentioned, named_eq names rfl, eraseDups_of_nodup distinct]
      rfl
  | canonical kind => rfl
  | updateOf names => rfl

namespace TableMapping

theorem pairings_ofProperty (object : ObjectPath) (properties : List Property) :
    pairings (properties.map (.ofProperty object)) = Property.pairings properties := by
  simp only [pairings, Property.pairings, List.map_map]
  rfl

namespace Reflects

variable {mapping : TableMapping} {model : Model} {traits : DialectTraits}

theorem named_pairings (reflects : mapping.Reflects model traits) {properties : List Property}
    (mapped : ∀ property ∈ properties, property ∈ model.mapped) :
    Pairing.Named (Property.pairings properties) := by
  intro pair member
  obtain ⟨property, declared, rfl⟩ := List.mem_map.mp member
  exact reflects.sound.isParameterName property (mapped property declared)

theorem pairings_ne {properties : List Property} (properties_ne : properties ≠ []) :
    Property.pairings properties ≠ [] := by
  simpa [Property.pairings] using properties_ne

theorem insertion_eq (reflects : mapping.Reflects model traits) (properties : List Property) :
    mapping.insertion (properties.map (.ofProperty (pathOf model traits))) =
      .insert (pathOf model traits).segments (Property.pairings properties)
        (Property.pairings model.mapped) := by
  rw [insertion, reflects.path_eq, reflects.properties_eq, pairings_ofProperty,
    pairings_ofProperty]

theorem updating_eq (reflects : mapping.Reflects model traits) (properties : List Property) :
    mapping.updating (properties.map (.ofProperty (pathOf model traits))) =
      .update (pathOf model traits).segments (Property.pairings properties)
        (Property.pairings model.keys) (Property.pairings model.mapped) := by
  rw [updating, reflects.path_eq, reflects.keys_eq, reflects.properties_eq, pairings_ofProperty,
    pairings_ofProperty, pairings_ofProperty]

theorem deletion_eq (reflects : mapping.Reflects model traits) :
    mapping.deletion =
      .delete (pathOf model traits).segments (Property.pairings model.mapped) := by
  rw [deletion, reflects.path_eq, reflects.properties_eq, pairings_ofProperty]

theorem selection_eq (reflects : mapping.Reflects model traits) :
    mapping.selection =
      .select (pathOf model traits).segments (Property.pairings model.mapped)
        (Property.pairings model.keys) := by
  rw [selection, reflects.path_eq, reflects.keys_eq, reflects.properties_eq, pairings_ofProperty,
    pairings_ofProperty]

theorem keyed_eq (reflects : mapping.Reflects model traits) :
    mapping.keyed =
      match model.keyless? with
      | some error => .error error
      | none => .ok () := by
  have hasKey_eq : mapping.hasKey = !model.keys.isEmpty := by
    rw [hasKey, reflects.keys_eq]
    cases model.keys <;> rfl
  rw [keyed, hasKey_eq, Model.keyless?, defect, reflects.model_eq]
  cases model.keys.isEmpty <;> rfl

/-- A form has the command that the declarations call for, unless something stands in its way. -/
theorem command_eq (reflects : mapping.Reflects model traits) (form : StatementForm) :
    mapping.command form =
      match model.obstacle? form with
      | some error => .error error
      | none => .ok (model.command (pathOf model traits).segments form) := by
  cases form with
  | canonical kind =>
      cases kind with
      | insert =>
          rw [TableMapping.command, reflects.writable_eq, reflects.insertion_eq]
          rfl
      | update =>
          rw [TableMapping.command, reflects.keyed_eq, reflects.writable_eq, reflects.updating_eq,
            List.isEmpty_map, defect, reflects.model_eq, Model.obstacle?]
          cases model.keyless? with
          | some error => rfl
          | none => cases model.written.isEmpty <;> rfl
      | delete =>
          rw [TableMapping.command, reflects.keyed_eq, reflects.deletion_eq, Model.obstacle?]
          cases model.keyless? <;> rfl
      | findByKey =>
          rw [TableMapping.command, reflects.keyed_eq, reflects.selection_eq, Model.obstacle?]
          cases model.keyless? <;> rfl
  | insertOf names =>
      rw [TableMapping.command, reflects.resolve_eq, Model.obstacle?, Model.unknown?]
      cases model.unmapped? names with
      | some name => rfl
      | none => exact congrArg Except.ok (reflects.insertion_eq _)
  | updateOf names =>
      rw [TableMapping.command, reflects.keyed_eq, reflects.resolve_eq, defect, reflects.model_eq,
        Model.obstacle?, Model.unknown?]
      cases model.keyless? with
      | some error => rfl
      | none =>
          cases names.isEmpty with
          | true => rfl
          | false =>
              cases model.unmapped? names with
              | some name => rfl
              | none => exact congrArg Except.ok (reflects.updating_eq _)

/-- A form has the text of that command, unless something stands in its way. -/
theorem write_eq (reflects : mapping.Reflects model traits) (dialect : Dialect)
    (form : StatementForm) :
    (StatementSet.ofMapping mapping dialect).write form =
      match model.obstacle? form with
      | some error => .error error
      | none => .ok ((model.command (pathOf model traits).segments form).render dialect.traits) := by
  rw [write_ofMapping, reflects.command_eq]
  cases model.obstacle? form <;> rfl

theorem write_eq_error_iff (reflects : mapping.Reflects model traits) {dialect : Dialect}
    {form : StatementForm} {error : Error} :
    (StatementSet.ofMapping mapping dialect).write form = .error error ↔
      model.obstacle? form = some error := by
  rw [reflects.write_eq]
  cases model.obstacle? form <;> simp

theorem obstacle?_of_write (reflects : mapping.Reflects model traits) {dialect : Dialect}
    {form : StatementForm} {text : String}
    (written : (StatementSet.ofMapping mapping dialect).write form = .ok text) :
    model.obstacle? form = none := by
  rw [reflects.write_eq] at written
  cases obstacle : model.obstacle? form with
  | some error =>
      rw [obstacle] at written
      cases written
  | none => rfl

theorem wellFormed_command (reflects : mapping.Reflects model traits) {form : StatementForm}
    (free : model.obstacle? form = none) :
    (model.command (pathOf model traits).segments form).WellFormed := by
  have path_ne : (pathOf model traits).segments ≠ [] := by simp [ObjectPath.segments]
  have projection_ne := pairings_ne reflects.mapped_ne
  have writtenNamed := reflects.named_pairings fun _ => model.mem_mapped_of_mem_written
  have keysNamed := reflects.named_pairings fun _ => model.mem_mapped_of_mem_keys
  have mappedNamed := reflects.named_pairings fun _ member => member
  have namedNamed (names : List String) : Pairing.Named (Property.pairings (model.named names)) :=
    reflects.named_pairings fun _ => model.mem_mapped_of_mem_named
  have keys_ne (keyed : model.keyless? = none) : Property.pairings model.keys ≠ [] :=
    pairings_ne (Model.keyless?_eq_none_iff.mp keyed)
  cases form with
  | canonical kind =>
      cases kind with
      | insert => exact ⟨path_ne, projection_ne, writtenNamed⟩
      | update =>
          obtain ⟨keyed, updatable⟩ := Option.or_eq_none_iff.mp free
          have written_ne : Property.pairings model.written ≠ [] :=
            pairings_ne (by simpa using updatable)
          exact ⟨path_ne, written_ne, keys_ne keyed, projection_ne, writtenNamed, keysNamed⟩
      | delete => exact ⟨path_ne, projection_ne, mappedNamed⟩
      | findByKey => exact ⟨path_ne, projection_ne, keys_ne free, keysNamed⟩
  | insertOf names => exact ⟨path_ne, projection_ne, namedNamed names⟩
  | updateOf names =>
      have mapped := Model.unmapped?_of_obstacle? free (.inr rfl)
      obtain ⟨keyed, nonempty⟩ := Option.or_eq_none_iff.mp (Option.or_eq_none_iff.mp free).1
      have assigned_ne : Property.pairings (model.named names) ≠ [] := by
        refine pairings_ne ?_
        intro named_eq
        have names_eq := model.map_name_named mapped
        rw [named_eq] at names_eq
        simp [← names_eq] at nonempty
      exact ⟨path_ne, assigned_ne, keys_ne keyed, projection_ne, namedNamed names, keysNamed⟩

/-- A form has the command that the declarations call for, and that command can be read. -/
theorem command_eq_ok (reflects : mapping.Reflects model traits) {form : StatementForm}
    {command : Command} (available : mapping.command form = .ok command) :
    command = model.command (pathOf model traits).segments form ∧ command.WellFormed := by
  rw [reflects.command_eq] at available
  cases obstacle : model.obstacle? form with
  | some error =>
      rw [obstacle] at available
      cases available
  | none =>
      rw [obstacle] at available
      cases available
      exact ⟨rfl, reflects.wellFormed_command obstacle⟩

theorem distinctNames_ofProperty (object : ObjectPath) (properties : List Property) :
    StatementSet.distinctNames (properties.map (.ofProperty object)) =
      (properties.map (·.name)).eraseDups := by
  rw [StatementSet.distinctNames, map_name_ofProperty, StatementSet.distinct_eq_eraseDups]

/-- The properties that a form binds are those whose parameters its command mentions. They can be
listed as long as all names are mapped, whether or not there is a command. -/
theorem binds_eq_listed (reflects : mapping.Reflects model traits) (dialect : Dialect)
    (form : StatementForm) :
    (StatementSet.ofMapping mapping dialect).binds form =
      match model.unlisted? form with
      | some error => .error error
      | none => .ok (model.listed form) := by
  cases form with
  | canonical kind =>
      refine congrArg Except.ok ?_
      cases kind with
      | insert =>
          change StatementSet.distinctNames mapping.writable = _
          rw [reflects.writable_eq, distinctNames_ofProperty]
          rfl
      | update =>
          change StatementSet.distinctNames (mapping.writable ++ mapping.keys) = _
          rw [reflects.writable_eq, reflects.keys_eq, ← List.map_append, distinctNames_ofProperty]
          rfl
      | delete =>
          change StatementSet.distinctNames mapping.properties = _
          rw [reflects.properties_eq, distinctNames_ofProperty]
          rfl
      | findByKey =>
          change StatementSet.distinctNames mapping.keys = _
          rw [reflects.keys_eq, distinctNames_ofProperty]
          rfl
  | insertOf names =>
      change (mapping.resolve names).map _ = _
      rw [reflects.resolve_eq, Model.unlisted?, Model.unknown?]
      cases mapped : model.unmapped? names with
      | some name => rfl
      | none =>
          exact congrArg Except.ok ((map_name_ofProperty _ _).trans (model.map_name_named mapped))
  | updateOf names =>
      have listed_eq : StatementSet.distinctNames
          ((model.named names).map (.ofProperty (pathOf model traits)) ++ mapping.keys) =
            model.listed (.updateOf names) := by
        rw [reflects.keys_eq, ← List.map_append, distinctNames_ofProperty]
        rfl
      change (mapping.resolve names).map _ = _
      rw [reflects.resolve_eq, Model.unlisted?, Model.unknown?]
      cases model.unmapped? names with
      | some name => rfl
      | none => exact congrArg Except.ok listed_eq

theorem binds_eq (reflects : mapping.Reflects model traits) (dialect : Dialect)
    {form : StatementForm} (free : model.obstacle? form = none) :
    (StatementSet.ofMapping mapping dialect).binds form = .ok (model.listed form) := by
  rw [reflects.binds_eq_listed, Model.unlisted?_of_obstacle? free]

end Reflects

end TableMapping

open TableMapping

/-- A text that a statement set writes is the text of the command that the declarations call for. -/
theorem StatementSet.write_eq_ok {model : Model} {origin dialect : Dialect} {mapping : TableMapping}
    (accepted : reflect model origin = .ok mapping) {form : StatementForm} {text : String}
    (written : (StatementSet.ofMapping mapping dialect).write form = .ok text) :
    let command := model.command (pathOf model origin.traits).segments form
    text = command.render dialect.traits ∧ command.WellFormed := by
  rw [write_ofMapping] at written
  obtain ⟨command, available, rfl⟩ := map_eq_ok written
  obtain ⟨rfl, wellFormed⟩ := (reflects_of_reflect accepted).command_eq_ok available
  exact ⟨rfl, wellFormed⟩

end RowMapping
