import RowMapping.Proofs.Gateway.Operation
import RowMapping.Proofs.Patch.Writing

/-!
# Changesets of patches in statements

A patch records names of declarations; a statement needs their mapped properties and then reads the
first declarations. Both find the same declaration unless a name is hidden: its first declaration is
not mapped, and no mapped one has the name or the first cannot be read. A statement on what a patch
has recorded fails exactly on a hidden name.
-/

namespace RowMapping

namespace Shape

variable {shape : Shape}

/-- The first declaration of the name is not mapped, and either no other is or the value cannot be
read. -/
def Hides (shape : Shape) (name : String) : Prop :=
  ∃ first, shape.first? name = some first ∧ (shape.property first).isMapped = false ∧
    ((∀ property ∈ shape.mapped, property.name ≠ name) ∨
      (shape.property first).isReadable = false)

/-- Where mapped declarations can be read, a declared name is hidden exactly if it is the name of no
mapped one or has no value. -/
theorem hides_iff (readable : ∀ property ∈ shape.mapped, property.isReadable = true) {name : String}
    {first : shape.Place} (first_eq : shape.first? name = some first) :
    shape.Hides name ↔
      (∀ property ∈ shape.mapped, property.name ≠ name) ∨ shape.supplies name = false := by
  rw [supplies_eq first_eq]
  constructor
  · rintro ⟨place, place_eq, -, blocked⟩
    obtain rfl : place = first := Option.some.inj (place_eq.symm.trans first_eq)
    exact blocked
  · intro blocked
    refine ⟨first, first_eq, ?_, blocked⟩
    by_contra first_mapped
    have mapped : shape.property first ∈ shape.mapped :=
      mem_mapped_iff.mpr ⟨first, rfl, by simpa using first_mapped⟩
    rcases blocked with unmapped | unreadable
    · exact unmapped _ mapped (name_of_first?_eq_some first_eq)
    · rw [readable _ mapped] at unreadable
      cases unreadable

theorem exists_first_of_mem_mapped {property : Property} (mapped : property ∈ shape.mapped) :
    ∃ first, shape.first? property.name = some first := by
  obtain ⟨place, rfl, -⟩ := mem_mapped_iff.mp mapped
  exact exists_first?_eq_some place

end Shape

/-- An answer on some names is a statement exactly if none of them is hidden; if it is an error, the
error looks up a hidden one. -/
structure Model.RefusesHidden (model : Model) (names : List String)
    (answer : Except Error Statement) : Prop where
  ok_iff : (∃ statement, answer = .ok statement) ↔ ∀ name ∈ names, ¬ model.Hides name
  error_eq : ∀ error, answer = .error error →
    ∃ name ∈ names, model.Hides name ∧ error = .lookup ⟨model.name, name⟩

namespace Model.RefusesHidden

variable {model : Model} {names : List String}

theorem of_error {name : String} (member : name ∈ names) (hidden : model.Hides name) :
    model.RefusesHidden names (.error (.lookup ⟨model.name, name⟩)) where
  ok_iff := by
    constructor
    · rintro ⟨statement, returned⟩
      cases returned
    · intro unhidden
      exact absurd hidden (unhidden name member)
  error_eq := by
    rintro error failed
    cases failed
    exact ⟨name, member, hidden, rfl⟩

theorem of_fill {template : Template} (binds : ∀ name, name ∈ template.names ↔ name ∈ names)
    (hides_iff : ∀ name ∈ names, model.Hides name ↔ model.supplies name = false)
    (record : Record model.toShape) :
    model.RefusesHidden names (template.fill (.reflect model.toShape) record) where
  ok_iff := by
    rw [Template.exists_fill_eq_ok_iff]
    constructor
    · intro supplied name member hidden
      have missing := (hides_iff name member).mp hidden
      rw [supplied name ((binds name).mpr member)] at missing
      cases missing
    · intro unhidden name listed
      have member := (binds name).mp listed
      by_contra missing
      exact unhidden name member ((hides_iff name member).mpr (by simpa using missing))
  error_eq := by
    intro error failed
    obtain ⟨name, missing, error_eq⟩ := Template.fill_eq_error failed
    obtain ⟨listed, unsupplied⟩ := Shape.missing?_eq_some missing
    have member := (binds name).mp listed
    exact ⟨name, member, (hides_iff name member).mpr unsupplied, error_eq⟩

end Model.RefusesHidden

namespace StatementSet

open TableMapping

theorem draft_of_resolve {set : StatementSet} {mapping : TableMapping} {form : StatementForm}
    {names : List String} {text : List MappedProperty → String}
    {bound : List MappedProperty → List String}
    (written : set.write form = (mapping.resolve names).map text)
    (listed : set.binds form = (mapping.resolve names).map bound) :
    set.draft form =
      (mapping.resolve names).map fun properties => ⟨text properties, bound properties⟩ := by
  rw [draft, written, listed]
  cases mapping.resolve names <;> rfl

theorem draft_insertOf (mapping : TableMapping) (dialect : Dialect) (names : List String) :
    (ofMapping mapping dialect).draft (.insertOf names) =
      (mapping.resolve names).map fun properties =>
        ⟨(mapping.insertion properties).render dialect.traits, properties.map (·.name)⟩ :=
  draft_of_resolve rfl rfl

theorem draft_updateOf {mapping : TableMapping} (keyed : mapping.keyed = .ok ()) (dialect : Dialect)
    {names : List String} (names_ne : names ≠ []) :
    (ofMapping mapping dialect).draft (.updateOf names) =
      (mapping.resolve names).map fun properties =>
        ⟨(mapping.updating properties).render dialect.traits,
          distinctNames (properties ++ mapping.keys)⟩ := by
  have written : (ofMapping mapping dialect).write (.updateOf names) =
      (mapping.resolve names).map fun properties =>
        (mapping.updating properties).render dialect.traits := by
    rw [write_ofMapping]
    simp only [TableMapping.command, keyed, List.isEmpty_iff, names_ne, if_false]
    cases mapping.resolve names <;> rfl
  exact draft_of_resolve written rfl

end StatementSet

namespace Gateway

variable {gateway : Gateway} {workspace : Workspace} {model : Model}

/-- A statement whose template comes from resolved names fails exactly on the hidden ones among the
names that it binds. -/
theorem refusesHidden_of_draft {mapping : TableMapping} {traits : DialectTraits}
    (reflects : mapping.Reflects model traits)
    (readable : ∀ property ∈ model.mapped, property.isReadable = true)
    {names keys : List String} {assemble : List MappedProperty → Template}
    (declared : ∀ name ∈ names, ∃ first, model.first? name = some first)
    (keys_mapped : ∀ name ∈ keys, ∃ property ∈ model.mapped, property.name = name)
    (binds : ∀ properties, mapping.resolve names = .ok properties →
      ∀ name, name ∈ (assemble properties).names ↔ name ∈ names ++ keys)
    (record : Record model.toShape) :
    model.RefusesHidden (names ++ keys)
      (((mapping.resolve names).map assemble).bind (·.fill (.reflect model.toShape) record)) := by
  -- A name fails where it is resolved or, once all of them resolve, where its value is read.
  cases resolved : mapping.resolve names with
  | error report =>
      obtain ⟨name, recorded, unmapped, rfl⟩ := reflects.resolve_eq_error resolved
      obtain ⟨first, first_eq⟩ := declared name recorded
      have hidden := (Shape.hides_iff readable first_eq).mpr (.inl unmapped)
      exact .of_error (List.mem_append_left keys recorded) hidden
  | ok properties =>
      refine .of_fill (binds properties resolved) ?_ record
      intro name member
      have mapped : ∃ property ∈ model.mapped, property.name = name := by
        rcases List.mem_append.mp member with recorded | matched
        · exact reflects.exists_mapped_of_resolve resolved recorded
        · exact keys_mapped name matched
      obtain ⟨property, is_mapped, rfl⟩ := mapped
      obtain ⟨first, first_eq⟩ := Shape.exists_first_of_mem_mapped is_mapped
      rw [Shape.hides_iff readable first_eq]
      constructor
      · rintro (unmapped | missing)
        · exact absurd rfl (unmapped property is_mapped)
        · exact missing
      · exact .inr

/-- On what a patch has recorded, an insertion fails exactly on the hidden names, and so does an
update with keys on those and on the hidden keys. -/
theorem refusesHidden_of_apply {set : StatementSet}
    (answered : workspace.answer (gateway.statements model) = .ok set)
    (readable : ∀ property ∈ model.mapped, property.isReadable = true)
    {source : Shape} {cache : AccessorCache} {old : Record model.toShape} {record : Record source}
    {changes : ChangeSet model.toShape} (applied : (Patch.apply cache old record).1 = .ok changes) :
    model.RefusesHidden changes.names (workspace.answer (gateway.insertChanges model changes)) ∧
      (model.keys ≠ [] → changes.names ≠ [] →
        model.RefusesHidden (changes.names ++ model.keys.map (·.name))
          (workspace.answer (gateway.updateChanges model changes))) := by
  obtain ⟨used, mapping, -, accepted, rfl⟩ := statements_eq_ok answered
  have reflects := TableMapping.reflects_of_reflect accepted
  have declared : ∀ name ∈ changes.names, ∃ first, model.first? name = some first := by
    intro name recorded
    obtain ⟨first, first_eq, -⟩ := Patch.exists_first_of_apply applied recorded
    exact ⟨first, first_eq⟩
  have names_eq : ∀ properties, mapping.resolve changes.names = .ok properties →
      properties.map (·.name) = changes.names := by
    intro properties resolved
    obtain ⟨rfl, names_eq⟩ := reflects.resolve_eq_ok resolved
    rw [TableMapping.map_name_ofProperty, names_eq]
  constructor
  · have settled : model.RefusesHidden (changes.names ++ [])
        (workspace.answer (gateway.perform (.insertChanges changes))) := by
      rw [answer_perform, draft_eq answered, Operation.form, StatementSet.draft_insertOf]
      refine refusesHidden_of_draft reflects readable declared ?_ ?_ changes.target
      · intro name matched
        cases matched
      · intro properties resolved name
        rw [names_eq properties resolved, List.append_nil]
    rw [List.append_nil] at settled
    exact settled
  · intro keys_ne names_ne
    have keyed : mapping.keyed = .ok () := by
      rw [mapping.keyed_eq_ok_iff, reflects.keys_eq]
      simpa using keys_ne
    change model.RefusesHidden _ (workspace.answer (gateway.perform (.updateChanges changes)))
    rw [answer_perform, draft_eq answered, Operation.form, StatementSet.draft_updateOf keyed _ names_ne]
    refine refusesHidden_of_draft reflects readable declared ?_ ?_ changes.target
    · intro name matched
      obtain ⟨property, isKey, rfl⟩ := List.mem_map.mp matched
      exact ⟨property, model.mem_mapped_of_mem_keys isKey, rfl⟩
    · intro properties resolved name
      rw [StatementSet.distinctNames, StatementSet.mem_distinct, List.map_append,
        names_eq properties resolved, reflects.keys_eq, TableMapping.map_name_ofProperty]

/-- A model with a property that has no column. -/
def masked : Model where
  name := "Masked"
  table := "Accounts"
  properties :=
    [{ name := "Id", type := .integer .thirtyTwo, flags := { key := true } },
     { name := "X", type := .integer .thirtyTwo, flags := { notMapped := true } }]

/-- A record of another shape, in which that property is mapped. -/
def payload : Record ⟨"Payload", [{ name := "X", type := .integer .thirtyTwo }]⟩ :=
  (Record.blank _).put (0 : Fin 1) (1 : Int32)

theorem refusesHidden_of_apply_masked :
    let gateway : Gateway := ⟨.standard .postgres, ⟨0⟩⟩
    ∃ changes, (Patch.apply .empty (.blank masked.toShape) payload).1 = .ok changes ∧
      changes.names = ["X"] ∧
      masked.RefusesHidden ["X"] (Workspace.initial.answer (gateway.insertChanges masked changes)) ∧
      masked.RefusesHidden ["X", "Id"]
        (Workspace.initial.answer (gateway.updateChanges masked changes)) := by
  intro gateway
  refine ⟨_, rfl, rfl, ?_⟩
  have readable : ∀ property ∈ masked.mapped, property.isReadable = true := by decide
  obtain ⟨inserted, updated⟩ :=
    @refusesHidden_of_apply gateway .initial masked _ rfl readable _ .empty (.blank masked.toShape)
      payload _ rfl
  exact ⟨inserted, updated (by decide) (by decide)⟩

/-- The patch records the property, and neither statement takes it. -/
theorem insertChanges_masked :
    let gateway : Gateway := ⟨.standard .postgres, ⟨0⟩⟩
    (∃ set, Workspace.initial.answer (gateway.statements masked) = .ok set) ∧
      (∀ property ∈ masked.mapped, property.isReadable = true) ∧ masked.keys ≠ [] ∧
      ∃ changes, (Patch.apply .empty (.blank masked.toShape) payload).1 = .ok changes ∧
        Workspace.initial.answer (gateway.insertChanges masked changes) =
          .error (.lookup ⟨"Masked", "X"⟩) ∧
        Workspace.initial.answer (gateway.updateChanges masked changes) =
          .error (.lookup ⟨"Masked", "X"⟩) := by
  intro gateway
  exact ⟨⟨_, rfl⟩, by decide, by decide, _, rfl, rfl, rfl⟩

end Gateway

end RowMapping
