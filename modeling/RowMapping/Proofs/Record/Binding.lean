import RowMapping.Proofs.Mapping.Reflection
import RowMapping.Statement

/-!
# What names reach in a record

A name reaches the first declaration of that name, whether or not it is mapped. Binding takes the
values that its names reach, in the order of the names; it succeeds exactly if every name reaches a
declaration that can be read.
-/

namespace RowMapping

namespace Shape

variable (shape : Shape)

/-- The first declaration of a name. -/
def first? (name : String) : Option shape.Place :=
  shape.places.find? fun place => (shape.property place).name == name

/-- Whether the first declaration of a name can be read. -/
def supplies (name : String) : Bool :=
  (shape.first? name).any fun place => (shape.property place).isReadable

/-- The first of some names that reaches nothing that can be read. -/
def missing? (names : List String) : Option String :=
  names.find? fun name => !shape.supplies name

variable {shape}

theorem missing?_eq_some {names : List String} {name : String}
    (missing : shape.missing? names = some name) :
    name ∈ names ∧ shape.supplies name = false :=
  ⟨List.mem_of_find?_eq_some missing, by simpa using List.find?_some missing⟩

theorem name_of_first?_eq_some {name : String} {place : shape.Place}
    (reached : shape.first? name = some place) : (shape.property place).name = name := by
  simpa using List.find?_some reached

theorem exists_first?_eq_some (place : shape.Place) :
    ∃ first, shape.first? (shape.property place).name = some first := by
  have found : (shape.first? (shape.property place).name).isSome = true := by
    rw [first?, List.find?_isSome]
    exact ⟨place, List.mem_finRange place, by simp⟩
  exact Option.isSome_iff_exists.mp found

theorem supplies_eq {name : String} {place : shape.Place}
    (reached : shape.first? name = some place) :
    shape.supplies name = (shape.property place).isReadable := by
  rw [supplies, reached, Option.any_some]

theorem mem_mapped_iff {property : Property} :
    property ∈ shape.mapped ↔
      ∃ place, shape.property place = property ∧ property.isMapped = true := by
  rw [shape.mem_mapped, ← shape.map_property_places, List.mem_map]
  constructor
  · rintro ⟨⟨place, -, is_property⟩, isMapped⟩
    exact ⟨place, is_property, isMapped⟩
  · rintro ⟨place, is_property, isMapped⟩
    exact ⟨⟨place, List.mem_finRange place, is_property⟩, isMapped⟩

theorem map_property_mapped_places :
    (shape.places.filter fun place => (shape.property place).isMapped).map shape.property =
      shape.mapped := by
  rw [mapped, ← shape.map_property_places, List.filter_map]
  rfl

/-- Of the declarations of one name, at most one is mapped. -/
theorem place_unique (sound : TableMapping.Sound shape.mapped) {left right : shape.Place}
    (left_mapped : (shape.property left).isMapped = true)
    (right_mapped : (shape.property right).isMapped = true)
    (same_name : (shape.property left).name = (shape.property right).name) : left = right := by
  have names_nodup := sound.names_nodup
  rw [← map_property_mapped_places, List.map_map] at names_nodup
  refine List.inj_on_of_nodup_map names_nodup ?_ ?_ same_name
  · exact List.mem_filter.mpr ⟨List.mem_finRange left, left_mapped⟩
  · exact List.mem_filter.mpr ⟨List.mem_finRange right, right_mapped⟩

end Shape

variable {shape : Shape}

/-- The value that a name reaches in a record, if it can be read. -/
def Record.supply? (record : Record shape) (name : String) : Option Value :=
  (shape.first? name).bind fun place => (Accessor.mk place).read? record

theorem Record.supply?_eq_some_iff {record : Record shape} {name : String} {value : Value} :
    record.supply? name = some value ↔
      shape.supplies name = true ∧
        ∃ place, shape.first? name = some place ∧ record.value place = value := by
  cases reached : shape.first? name with
  | none => simp [supply?, reached]
  | some place =>
      cases readable : (shape.property place).isReadable <;>
        simp [supply?, Shape.supplies_eq reached, reached, Accessor.read?, Accessor.property,
          readable]

theorem Record.supply?_of_first? {record : Record shape} {name : String} {place : shape.Place}
    (reached : shape.first? name = some place) (supplied : shape.supplies name = true) :
    record.supply? name = some (record.value place) :=
  supply?_eq_some_iff.mpr ⟨supplied, place, reached, rfl⟩

theorem Record.supply?_eq_none_iff {record : Record shape} {name : String} :
    record.supply? name = none ↔ shape.supplies name = false := by
  cases reached : shape.first? name with
  | none => simp [supply?, Shape.supplies, reached]
  | some place =>
      cases readable : (shape.property place).isReadable <;>
        simp [supply?, Shape.supplies_eq reached, reached, Accessor.read?, Accessor.property,
          readable]

namespace AccessorTable

theorem find?_reflect (shape : Shape) (name : String) :
    (reflect shape).find? name = (shape.first? name).map Accessor.mk := by
  change (indexOf (shape.places.map Accessor.mk)).find? name = _
  rw [find?_indexOf, List.find?_map]
  rfl

variable {record : Record shape} {name : String} {names : List String}
  {parameters : List (String × Value)} {error : Error}

theorem bind_reflect_cons (record : Record shape) (name : String) (names : List String) :
    (reflect shape).bind record (name :: names) =
      match record.supply? name with
      | none => .error (.lookup ⟨shape.name, name⟩)
      | some value =>
          ((reflect shape).bind record names).map ((parameterName name, value) :: ·) := by
  have supply_eq : (((reflect shape).find? name).bind fun accessor => accessor.read? record) =
      record.supply? name := by
    rw [find?_reflect, Option.bind_map]
    rfl
  rw [bind, supply_eq]
  cases record.supply? name with
  | none => rfl
  | some value => cases (reflect shape).bind record names <;> rfl

theorem bind_cons_eq_ok (bound : (reflect shape).bind record (name :: names) = .ok parameters) :
    ∃ value rest, record.supply? name = some value ∧
      (reflect shape).bind record names = .ok rest ∧
        parameters = (parameterName name, value) :: rest := by
  rw [bind_reflect_cons] at bound
  cases supplied : record.supply? name with
  | none =>
      rw [supplied] at bound
      cases bound
  | some value =>
      rw [supplied] at bound
      obtain ⟨rest, rest_bound, rfl⟩ := map_eq_ok bound
      exact ⟨value, rest, rfl, rest_bound, rfl⟩

theorem map_fst_bind (bound : (reflect shape).bind record names = .ok parameters) :
    parameters.map Prod.fst = names.map parameterName := by
  induction names generalizing parameters with
  | nil =>
      cases bound
      rfl
  | cons name names ih =>
      obtain ⟨value, rest, -, rest_bound, rfl⟩ := bind_cons_eq_ok bound
      rw [List.map_cons, List.map_cons, ih rest_bound]

/-- The parameters are the names with the values that they reach. -/
theorem map_some_bind (bound : (reflect shape).bind record names = .ok parameters) :
    parameters.map (Prod.map id some) =
      names.map fun name => (parameterName name, record.supply? name) := by
  induction names generalizing parameters with
  | nil =>
      cases bound
      rfl
  | cons name names ih =>
      obtain ⟨value, rest, supplied, rest_bound, rfl⟩ := bind_cons_eq_ok bound
      rw [List.map_cons, List.map_cons, ih rest_bound, supplied]
      rfl

theorem mem_bind_iff (bound : (reflect shape).bind record names = .ok parameters)
    {parameter : String × Value} :
    parameter ∈ parameters ↔
      ∃ name ∈ names, parameter.1 = parameterName name ∧
        record.supply? name = some parameter.2 := by
  induction names generalizing parameters with
  | nil =>
      cases bound
      simp
  | cons name names ih =>
      obtain ⟨value, rest, supplied, rest_bound, rfl⟩ := bind_cons_eq_ok bound
      rw [List.mem_cons, ih rest_bound]
      constructor
      · rintro (rfl | ⟨other, member, named, reached⟩)
        · exact ⟨name, List.mem_cons_self, rfl, supplied⟩
        · exact ⟨other, List.mem_cons_of_mem _ member, named, reached⟩
      · rintro ⟨other, member, named, reached⟩
        rcases List.mem_cons.mp member with rfl | later
        · left
          rw [supplied, Option.some.injEq] at reached
          exact Prod.ext named reached.symm
        · exact .inr ⟨other, later, named, reached⟩

theorem supplies_of_mem (bound : (reflect shape).bind record names = .ok parameters)
    (member : name ∈ names) : shape.supplies name = true := by
  induction names generalizing parameters with
  | nil => cases member
  | cons other names ih =>
      obtain ⟨value, rest, supplied, rest_bound, -⟩ := bind_cons_eq_ok bound
      rcases List.mem_cons.mp member with rfl | later
      · exact (Record.supply?_eq_some_iff.mp supplied).1
      · exact ih rest_bound later

/-- A binding that fails reports the first name that reaches nothing that can be read. -/
theorem bind_eq_error (failed : (reflect shape).bind record names = .error error) :
    ∃ name, shape.missing? names = some name ∧ error = .lookup ⟨shape.name, name⟩ := by
  induction names with
  | nil => cases failed
  | cons name names ih =>
      rw [bind_reflect_cons] at failed
      rw [Shape.missing?, List.find?_cons]
      cases supplied : record.supply? name with
      | none =>
          rw [supplied] at failed
          cases failed
          rw [Record.supply?_eq_none_iff.mp supplied]
          exact ⟨name, rfl, rfl⟩
      | some value =>
          rw [supplied] at failed
          rw [(Record.supply?_eq_some_iff.mp supplied).1]
          cases rest : (reflect shape).bind record names with
          | ok parameters =>
              rw [rest] at failed
              cases failed
          | error report =>
              rw [rest] at failed
              cases failed
              exact ih rest

/-- Whether a binding succeeds depends on the names and the shape alone. -/
theorem exists_bind_eq_ok_iff (record : Record shape) (names : List String) :
    (∃ parameters, (reflect shape).bind record names = .ok parameters) ↔
      ∀ name ∈ names, shape.supplies name = true := by
  constructor
  · rintro ⟨parameters, bound⟩ name member
    exact supplies_of_mem bound member
  · intro supplied
    cases bound : (reflect shape).bind record names with
    | ok parameters => exact ⟨parameters, rfl⟩
    | error report =>
        obtain ⟨name, missing, -⟩ := bind_eq_error bound
        obtain ⟨member, unsupplied⟩ := Shape.missing?_eq_some missing
        rw [supplied name member] at unsupplied
        cases unsupplied

end AccessorTable

namespace Template

theorem exists_fill_eq_ok_iff (template : Template) (record : Record shape) :
    (∃ statement, template.fill (.reflect shape) record = .ok statement) ↔
      ∀ name ∈ template.names, shape.supplies name = true := by
  rw [← AccessorTable.exists_bind_eq_ok_iff record]
  constructor
  · rintro ⟨statement, filled⟩
    obtain ⟨parameters, bound, -⟩ := map_eq_ok filled
    exact ⟨parameters, bound⟩
  · rintro ⟨parameters, bound⟩
    refine ⟨⟨template.sql, parameters⟩, ?_⟩
    rw [fill, bound]
    rfl

theorem fill_eq_error {template : Template} {record : Record shape} {error : Error}
    (failed : template.fill (.reflect shape) record = .error error) :
    ∃ name, shape.missing? template.names = some name ∧ error = .lookup ⟨shape.name, name⟩ := by
  rw [fill] at failed
  cases bound : (AccessorTable.reflect shape).bind record template.names with
  | ok parameters =>
      rw [bound] at failed
      cases failed
  | error report =>
      rw [bound] at failed
      cases failed
      exact AccessorTable.bind_eq_error bound

/-- A template fails to be filled exactly on the first of its names that reaches no value. -/
theorem fill_eq_error_iff {template : Template} {record : Record shape} {error : Error} :
    template.fill (.reflect shape) record = .error error ↔
      ∃ name, shape.missing? template.names = some name ∧ error = .lookup ⟨shape.name, name⟩ := by
  constructor
  · exact fill_eq_error
  · rintro ⟨name, missing, rfl⟩
    cases filled : template.fill (.reflect shape) record with
    | error other =>
        obtain ⟨found, found_missing, rfl⟩ := fill_eq_error filled
        rw [missing, Option.some.injEq] at found_missing
        rw [found_missing]
    | ok statement =>
        obtain ⟨listed, unsupplied⟩ := Shape.missing?_eq_some missing
        have supplied := (exists_fill_eq_ok_iff template record).mp ⟨statement, filled⟩ name listed
        rw [unsupplied] at supplied
        cases supplied

end Template

end RowMapping
