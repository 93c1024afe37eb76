import RowMapping.Proofs.Mapping.StatementForm

/-!
# What statements do not see of a model

Statements see the path of a table and, of each mapped declaration, its name, its column and whether
it is a key or generated. Models that agree on these are accepted together, with the same texts and
parameters, or refused together for one reason. Everything else is inert: the types, the declared
positions, the ways of access, whether a column that is named like its property is spelled out, and
all declarations that are not mapped, wherever they stand and whatever their names and columns.
-/

namespace RowMapping

/-- What statements see of a mapped declaration. -/
structure Facet where
  name : String
  column : String
  /-- Whether it identifies the row. -/
  isKey : Bool
  /-- Whether the database produces its values. -/
  isGenerated : Bool
  deriving DecidableEq, Repr

/-- The column and the name of a facet. -/
def Facet.pairing (facet : Facet) : Pairing := ⟨facet.column, facet.name⟩

def Property.facet (property : Property) : Facet :=
  ⟨property.name, property.columnName, property.flags.key, property.flags.generated⟩

/-- What statements see of a shape: the facets of its mapped declarations, in order. -/
def Shape.facets (shape : Shape) : List Facet := shape.mapped.map Property.facet

theorem Property.map_name_of_facet (properties : List Property) :
    properties.map (·.name) = (properties.map facet).map (·.name) := by
  rw [List.map_map]
  rfl

theorem Property.map_columnName_of_facet (properties : List Property) :
    properties.map (·.columnName) = (properties.map facet).map (·.column) := by
  rw [List.map_map]
  rfl

theorem Property.pairings_of_facet (properties : List Property) :
    pairings properties = (properties.map facet).map Facet.pairing := by
  rw [List.map_map]
  rfl

/-! ## All that statements use is in the facets -/

namespace Shape

variable (shape : Shape)

theorem map_facet_written :
    shape.written.map Property.facet = shape.facets.filter fun facet => !facet.isGenerated := by
  rw [facets, List.filter_map]
  rfl

theorem map_facet_keys : shape.keys.map Property.facet = shape.facets.filter (·.isKey) := by
  rw [facets, List.filter_map]
  rfl

theorem find?_facets (name : String) :
    (shape.facets.find? fun facet => facet.name == name) =
      (shape.mapped.find? fun property => property.name == name).map Property.facet := by
  rw [facets, List.find?_map]
  rfl

theorem map_facet_named (names : List String) :
    (shape.named names).map Property.facet =
      names.filterMap fun name => shape.facets.find? fun facet => facet.name == name := by
  simp only [named, List.map_filterMap, find?_facets]

theorem unmapped?_eq_facets (names : List String) :
    shape.unmapped? names =
      names.find? fun name => (shape.facets.find? fun facet => facet.name == name).isNone := by
  simp only [unmapped?, find?_facets, Option.isNone_map]

end Shape

namespace TableMapping

variable {left right : List Property}

theorem map_name_congr (same : left.map Property.facet = right.map Property.facet) :
    left.map (·.name) = right.map (·.name) := by
  rw [Property.map_name_of_facet, same, ← Property.map_name_of_facet]

theorem map_columnName_congr (same : left.map Property.facet = right.map Property.facet) :
    left.map (·.columnName) = right.map (·.columnName) := by
  rw [Property.map_columnName_of_facet, same, ← Property.map_columnName_of_facet]

theorem pairings_congr (same : left.map Property.facet = right.map Property.facet) :
    Property.pairings left = Property.pairings right := by
  rw [Property.pairings_of_facet, same, ← Property.pairings_of_facet]

/-- Declarations fit together as others of the same facets do. -/
theorem Sound.congr (same : left.map Property.facet = right.map Property.facet)
    (sound : Sound left) : Sound right := by
  have usable : ∀ name ∈ left.map (·.name), RowMapping.isParameterName name = true :=
    List.forall_mem_map.mpr sound.isParameterName
  rw [map_name_congr same] at usable
  exact ⟨map_name_congr same ▸ sound.names_nodup, map_columnName_congr same ▸ sound.columns_nodup,
    List.forall_mem_map.mp usable⟩

/-- A declaration fails to fit those before it as one of the same facet does. -/
theorem Faulty.congr {property other : Property} {defect : Defect}
    (same : left.map Property.facet = right.map Property.facet)
    (facet_eq : property.facet = other.facet) (faulty : Faulty left property defect) :
    Faulty right other defect := by
  have names_eq := map_name_congr same
  have name_eq : property.name = other.name := congrArg Facet.name facet_eq
  have column_eq : property.columnName = other.columnName := congrArg Facet.column facet_eq
  cases faulty with
  | unusableName unusable =>
      rw [name_eq] at unusable ⊢
      exact .unusableName unusable
  | repeatedProperty usable repeated =>
      rw [name_eq] at usable repeated ⊢
      exact .repeatedProperty usable (names_eq ▸ repeated)
  | repeatedColumn usable name_notin repeated =>
      rw [name_eq] at usable name_notin
      rw [column_eq] at repeated ⊢
      exact .repeatedColumn usable (names_eq ▸ name_notin) (map_columnName_congr same ▸ repeated)

end TableMapping

/-! ## Models that look alike -/

/-- Two models agree on all that statements see. -/
structure Model.LooksLike (left right : Model) : Prop where
  name_eq : left.name = right.name
  table_eq : left.table = right.table
  schema_eq : left.schema = right.schema
  database_eq : left.database = right.database
  facets_eq : left.facets = right.facets

namespace Model.LooksLike

open TableMapping

variable {left right : Model}

theorem symm (alike : left.LooksLike right) : right.LooksLike left :=
  ⟨alike.name_eq.symm, alike.table_eq.symm, alike.schema_eq.symm, alike.database_eq.symm,
    alike.facets_eq.symm⟩

theorem mapped_eq_nil_iff (alike : left.LooksLike right) :
    left.mapped = [] ↔ right.mapped = [] := by
  rw [← List.map_eq_nil_iff, ← Shape.facets, alike.facets_eq, Shape.facets, List.map_eq_nil_iff]

theorem admits (alike : left.LooksLike right) {traits : DialectTraits}
    (admits : traits.Admits left) : traits.Admits right := by
  rwa [DialectTraits.Admits, ← alike.database_eq]

theorem pathOf_eq (alike : left.LooksLike right) (traits : DialectTraits) :
    pathOf left traits = pathOf right traits := by
  rw [pathOf, pathOf, alike.database_eq, alike.schema_eq, alike.table_eq]

/-! ### Reflection -/

theorem firstDefect (alike : left.LooksLike right) {traits : DialectTraits} {defect : Defect}
    (first : FirstDefect left traits defect) : FirstDefect right traits defect := by
  cases first with
  | emptyTableName blank => exact .emptyTableName (alike.table_eq ▸ blank)
  | unreachableDatabase named database_eq barred =>
      exact .unreachableDatabase (alike.table_eq ▸ named) (alike.database_eq ▸ database_eq) barred
  | @faulty earlier later property _ named admits split sound faulty =>
      have facets_split : right.mapped.map Property.facet =
          earlier.map Property.facet ++ property.facet :: later.map Property.facet := by
        rw [← Shape.facets, ← alike.facets_eq, Shape.facets, split, List.map_append, List.map_cons]
      obtain ⟨earlier', rest, right_split, earlier_eq, rest_eq⟩ :=
        List.map_eq_append_iff.mp facets_split
      obtain ⟨property', later', rfl, property_eq, -⟩ := List.map_eq_cons_iff.mp rest_eq
      exact .faulty (alike.table_eq ▸ named) (alike.admits admits) right_split
        (sound.congr earlier_eq.symm) (faulty.congr earlier_eq.symm property_eq.symm)
  | nothingMapped named admits mapped_eq =>
      exact .nothingMapped (alike.table_eq ▸ named) (alike.admits admits)
        (alike.mapped_eq_nil_iff.mp mapped_eq)

theorem reflect_eq_error (alike : left.LooksLike right) {dialect : Dialect} {error : Error}
    (rejected : reflect left dialect = .error error) : reflect right dialect = .error error := by
  obtain ⟨defect, first, rfl⟩ := reflect_eq_error_iff.mp rejected
  exact reflect_eq_error_iff.mpr ⟨defect, alike.firstDefect first, by rw [alike.name_eq]⟩

theorem reflect_eq_error_iff (alike : left.LooksLike right) (dialect : Dialect) (error : Error) :
    reflect left dialect = .error error ↔ reflect right dialect = .error error :=
  ⟨alike.reflect_eq_error, alike.symm.reflect_eq_error⟩

/-! ### Statement forms -/

theorem map_facet_written (alike : left.LooksLike right) :
    left.written.map Property.facet = right.written.map Property.facet := by
  rw [Shape.map_facet_written, alike.facets_eq, ← Shape.map_facet_written]

theorem map_facet_keys (alike : left.LooksLike right) :
    left.keys.map Property.facet = right.keys.map Property.facet := by
  rw [Shape.map_facet_keys, alike.facets_eq, ← Shape.map_facet_keys]

theorem map_facet_named (alike : left.LooksLike right) (names : List String) :
    (left.named names).map Property.facet = (right.named names).map Property.facet := by
  rw [Shape.map_facet_named, alike.facets_eq, ← Shape.map_facet_named]

theorem map_facet_mentioned (alike : left.LooksLike right) (form : StatementForm) :
    (left.mentioned form).map Property.facet = (right.mentioned form).map Property.facet := by
  cases form with
  | canonical kind =>
      cases kind with
      | insert => exact alike.map_facet_written
      | update =>
          rw [Shape.mentioned, Shape.mentioned, List.map_append, List.map_append,
            alike.map_facet_written, alike.map_facet_keys]
      | delete => exact alike.facets_eq
      | findByKey => exact alike.map_facet_keys
  | insertOf names => exact alike.map_facet_named names
  | updateOf names =>
      rw [Shape.mentioned, Shape.mentioned, List.map_append, List.map_append,
        alike.map_facet_named, alike.map_facet_keys]

theorem listed_eq (alike : left.LooksLike right) (form : StatementForm) :
    left.listed form = right.listed form := by
  have names_eq := map_name_congr (alike.map_facet_mentioned form)
  cases form with
  | insertOf names => rfl
  | canonical kind => exact congrArg List.eraseDups names_eq
  | updateOf names => exact congrArg List.eraseDups names_eq

theorem command_eq (alike : left.LooksLike right) (path : List String) (form : StatementForm) :
    left.command path form = right.command path form := by
  have mapped_eq := pairings_congr alike.facets_eq
  have written_eq := pairings_congr alike.map_facet_written
  have keys_eq := pairings_congr alike.map_facet_keys
  have named_eq (names : List String) := pairings_congr (alike.map_facet_named names)
  cases form with
  | canonical kind => cases kind <;> simp only [Shape.command, mapped_eq, written_eq, keys_eq]
  | insertOf names => simp only [Shape.command, named_eq, mapped_eq]
  | updateOf names => simp only [Shape.command, named_eq, keys_eq, mapped_eq]

theorem keyless?_eq (alike : left.LooksLike right) : left.keyless? = right.keyless? := by
  rw [keyless?, keyless?, ← List.isEmpty_map (f := Property.facet), alike.map_facet_keys,
    List.isEmpty_map, alike.name_eq]

theorem unknown?_eq (alike : left.LooksLike right) (names : List String) :
    left.unknown? names = right.unknown? names := by
  rw [unknown?, unknown?, Shape.unmapped?_eq_facets, alike.facets_eq, ← Shape.unmapped?_eq_facets,
    alike.name_eq]

theorem unlisted?_eq (alike : left.LooksLike right) (form : StatementForm) :
    left.unlisted? form = right.unlisted? form := by
  cases form with
  | canonical kind => rfl
  | insertOf names => exact alike.unknown?_eq names
  | updateOf names => exact alike.unknown?_eq names

theorem obstacle?_eq (alike : left.LooksLike right) (form : StatementForm) :
    left.obstacle? form = right.obstacle? form := by
  have keyless_eq := alike.keyless?_eq
  have written_eq : left.written.isEmpty = right.written.isEmpty := by
    rw [← List.isEmpty_map (f := Property.facet), alike.map_facet_written, List.isEmpty_map]
  cases form with
  | canonical kind =>
      cases kind <;> simp only [obstacle?, keyless_eq, written_eq, alike.name_eq]
  | insertOf names => exact alike.unknown?_eq names
  | updateOf names => simp only [obstacle?, keyless_eq, alike.unknown?_eq, alike.name_eq]

end Model.LooksLike

/-! ## Statement sets of models that look alike -/

/-- Two statement sets give the same texts, the same parameters and the same errors. -/
structure StatementSet.AnswersLike (left right : StatementSet) : Prop where
  text_eq : ∀ kind, left.text kind = right.text kind
  parameters_eq : ∀ kind, left.parameters kind = right.parameters kind
  insertPartial_eq : ∀ names, left.insertPartial names = right.insertPartial names
  updatePartial_eq : ∀ names, left.updatePartial names = right.updatePartial names
  insertPartialParameters_eq : ∀ names,
    left.insertPartialParameters names = right.insertPartialParameters names
  updatePartialParameters_eq : ∀ names,
    left.updatePartialParameters names = right.updatePartialParameters names

theorem StatementSet.AnswersLike.of_forms {left right : StatementSet}
    (write_eq : ∀ form, left.write form = right.write form)
    (binds_eq : ∀ form, left.binds form = right.binds form) : left.AnswersLike right where
  text_eq kind := write_eq (.canonical kind)
  parameters_eq kind := Except.ok.inj (binds_eq (.canonical kind))
  insertPartial_eq names := write_eq (.insertOf names)
  updatePartial_eq names := write_eq (.updateOf names)
  insertPartialParameters_eq names := binds_eq (.insertOf names)
  updatePartialParameters_eq names := binds_eq (.updateOf names)

namespace Model

open TableMapping

/-- In a dialect, two models are refused together, for one reason, or accepted together, with
statement sets that answer alike. -/
structure SameStatements (left right : Model) (dialect : Dialect) : Prop where
  reflect_iff : ∀ error,
    reflect left dialect = .error error ↔ reflect right dialect = .error error
  answersLike : ∀ set, StatementSet.build left dialect = .ok set →
    ∃ other, StatementSet.build right dialect = .ok other ∧ set.AnswersLike other

theorem LooksLike.sameStatements {left right : Model} (alike : left.LooksLike right)
    (dialect : Dialect) : left.SameStatements right dialect where
  reflect_iff := alike.reflect_eq_error_iff dialect
  answersLike := by
    intro set built
    obtain ⟨mapping, accepted, rfl⟩ := map_eq_ok built
    cases verdict : reflect right dialect with
    | error error =>
        rw [alike.symm.reflect_eq_error verdict] at accepted
        cases accepted
    | ok other =>
        have reflects := reflects_of_reflect accepted
        have otherReflects := reflects_of_reflect verdict
        refine ⟨.ofMapping other dialect, by rw [StatementSet.build, verdict]; rfl,
          .of_forms (fun form => ?_) fun form => ?_⟩
        · rw [reflects.write_eq, otherReflects.write_eq, alike.obstacle?_eq, alike.command_eq,
            alike.pathOf_eq]
        · rw [reflects.binds_eq_listed, otherReflects.binds_eq_listed, alike.unlisted?_eq,
            alike.listed_eq]

/-- One list of declarations becomes the other by changes that statements do not see: what is not
mapped comes and goes anywhere, and what is mapped keeps its name, its flags and its column, which
may be spelled out or not. -/
inductive Redeclares : List Property → List Property → Prop
  | nil : Redeclares [] []
  | drop {property : Property} {before after : List Property}
      (hidden : property.isMapped = false) (rest : Redeclares before after) :
      Redeclares (property :: before) after
  | add {property : Property} {before after : List Property}
      (hidden : property.isMapped = false) (rest : Redeclares before after) :
      Redeclares before (property :: after)
  | restate {property : Property} {before after : List Property} (type : FieldType)
      (access : Access) (column : Option String) (order : Option Int32)
      (same_column : column.getD property.name = property.columnName)
      (rest : Redeclares before after) :
      Redeclares (property :: before) ({ property with type, access, column, order } :: after)

/-- Such changes leave the facets of the mapped declarations alone. -/
theorem Redeclares.map_facet {before after : List Property} (redeclared : Redeclares before after) :
    (before.filter (·.isMapped)).map Property.facet =
      (after.filter (·.isMapped)).map Property.facet := by
  induction redeclared with
  | nil => rfl
  | drop hidden _ ih => rw [List.filter_cons_of_neg (by simp [hidden]), ih]
  | add hidden _ ih => rw [List.filter_cons_of_neg (by simp [hidden]), ih]
  | @restate property before after type access column order same_column _ ih =>
      let restated : Property := { property with type, access, column, order }
      have isMapped_eq : restated.isMapped = property.isMapped := rfl
      have facet_eq : property.facet = restated.facet := by
        rw [Property.facet, ← same_column]
        rfl
      rw [List.filter_cons, List.filter_cons, isMapped_eq]
      cases property.isMapped with
      | false => exact ih
      | true => exact congrArg₂ List.cons facet_eq ih

theorem Redeclares.looksLike {model : Model} {properties : List Property}
    (redeclared : Redeclares model.properties properties) :
    model.LooksLike { model with properties } :=
  ⟨rfl, rfl, rfl, rfl, redeclared.map_facet⟩

/-- Models that agree on what statements see have the same statements in every dialect. So nothing
changes when the declarations of a model are restated in other types, with other ways of access,
other declared positions and columns spelled out or not, and when declarations that are not mapped
come or go. -/
theorem sameStatements_of_looksLike :
    (∀ left right : Model, left.LooksLike right →
      ∀ dialect, left.SameStatements right dialect) ∧
    ∀ (model : Model) (properties : List Property), Redeclares model.properties properties →
      ∀ dialect, model.SameStatements { model with properties } dialect := by
  constructor
  · intro left right alike dialect
    exact alike.sameStatements dialect
  · intro model properties redeclared dialect
    exact redeclared.looksLike.sameStatements dialect

/-- An invoice with its total in a column of its own. -/
def invoice : Model where
  name := "Invoice"
  table := "Invoices"
  properties :=
    [{ name := "Number", type := .integer .thirtyTwo, flags := { key := true, generated := true } },
     { name := "Total", type := .float64, column := some "amount" },
     { name := "Note", type := .text, column := some "Note" }]

/-- The same invoice to statements: a hidden total comes first, and a hidden note has the column of
the number. -/
def restatedInvoice : List Property :=
  [{ name := "Total", type := .dynamic, column := some "amount", flags := { notMapped := true } },
   { name := "Number", type := .optional (.integer .sixtyFour), access := .readOnly,
     column := some "Number", flags := { key := true, generated := true }, order := some 9 },
   { name := "Total", type := .text, column := some "amount", order := some 1 },
   { name := "Note", type := .bytes, access := .writeOnly, column := some "Number",
     flags := { key := true, notMapped := true } },
   { name := "Note", type := .json, access := .writeOnly }]

theorem redeclares_invoice : Redeclares invoice.properties restatedInvoice :=
  .add rfl <| .restate _ _ (some "Number") (some 9) rfl <|
    .restate _ _ (some "amount") (some 1) rfl <| .add rfl <| .restate _ _ none none rfl .nil

/-- Both invoices are updated by one text, which binds the same parameters. -/
theorem sameStatements_of_looksLike_invoice :
    ∃ set other, StatementSet.build invoice (.standard .sqlServer) = .ok set ∧
      StatementSet.build { invoice with properties := restatedInvoice } (.standard .sqlServer) =
        .ok other ∧
      other.update = set.update ∧ other.parameters .update = ["Total", "Note", "Number"] ∧
      set.AnswersLike other ∧ other.AnswersLike set := by
  have alike : invoice.LooksLike { invoice with properties := restatedInvoice } :=
    ⟨rfl, rfl, rfl, rfl, rfl⟩
  obtain ⟨other, built, answers⟩ :=
    (sameStatements_of_looksLike.2 _ _ redeclares_invoice (.standard .sqlServer)).answersLike _ rfl
  obtain ⟨set, rebuilt, answersBack⟩ :=
    (sameStatements_of_looksLike.1 _ _ alike.symm (.standard .sqlServer)).answersLike other built
  refine ⟨set, other, rebuilt, built, (answersBack.text_eq .update), ?_, ?_, answersBack⟩
  · rw [answersBack.parameters_eq]
    cases rebuilt
    rfl
  · cases rebuilt
    exact answers

end Model

end RowMapping
