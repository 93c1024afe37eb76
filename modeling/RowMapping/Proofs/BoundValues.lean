import RowMapping.Proofs.BoundNames

/-!
# The values that a statement binds

A statement on a whole record pairs each parameter with the column of the one mapped declaration of
its name, and gives it the value at the first declaration of that name. The two are the same
declaration unless one that is not mapped comes first; then the value is that one's.
-/

namespace RowMapping

theorem FieldType.exists_toValue_ne (type : FieldType) (value : Value) :
    ∃ content, type.toValue content ≠ value := by
  have of_ne {type : FieldType} {left right : type.Carrier}
      (differs : type.toValue left ≠ type.toValue right) : ∃ content, type.toValue content ≠ value := by
    by_cases same : type.toValue left = value
    · exact ⟨right, fun other => differs (same.trans other.symm)⟩
    · exact ⟨left, same⟩
  induction type with
  | bool => exact @of_ne .bool false true (by decide)
  | integer width =>
      cases width with
      | eight => exact @of_ne (.integer .eight) (0 : Int8) (1 : Int8) (by decide)
      | sixteen => exact @of_ne (.integer .sixteen) (0 : Int16) (1 : Int16) (by decide)
      | thirtyTwo => exact @of_ne (.integer .thirtyTwo) (0 : Int32) (1 : Int32) (by decide)
      | sixtyFour => exact @of_ne (.integer .sixtyFour) (0 : Int64) (1 : Int64) (by decide)
  | float32 => exact @of_ne .float32 (⟨0⟩ : Binary32) (⟨1⟩ : Binary32) (by decide)
  | float64 => exact @of_ne .float64 (⟨0⟩ : Binary64) (⟨1⟩ : Binary64) (by decide)
  | text => exact @of_ne .text "" "0" (by decide)
  | bytes => exact @of_ne .bytes ([] : List UInt8) ([0] : List UInt8) (by decide)
  | uuid => exact @of_ne .uuid .zero ⟨List.replicate 16 1, rfl⟩ (by decide)
  | json => exact @of_ne .json .null (.ofJson (.bool true)) (by decide)
  | optional inner ih =>
      obtain ⟨content, differs⟩ := ih
      exact ⟨some content, differs⟩
  | textReference => exact @of_ne .textReference "" "0" (by decide)
  | dynamic => exact @of_ne .dynamic (.bool false) (.bool true) (by decide)

/-- Every mapped declaration whose parameter a statement binds has its own value bound. -/
def Statement.Carries {shape : Shape} (statement : Statement) (record : Record shape) : Prop :=
  ∀ place, (shape.property place).isMapped = true →
    ∀ value, (parameterName (shape.property place).name, value) ∈ statement.parameters →
      value = record.value place

/-- Where a parameter comes from: the command pairs it with the column of the declaration at
`paired` and with no other, and it carries the value at `first`. -/
structure Command.Supplied {shape : Shape} (command : Command) (record : Record shape)
    (parameter : String × Value) (paired first : shape.Place) : Prop where
  name_eq : parameter.1 = parameterName (shape.property paired).name
  isMapped : (shape.property paired).isMapped = true
  pairing_mem : (shape.property paired).pairing ∈ command.bound
  pairing_unique : ∀ pair ∈ command.bound, parameterName pair.name = parameter.1 →
    pair = (shape.property paired).pairing
  first_eq : shape.first? (shape.property paired).name = some first
  value_eq : parameter.2 = record.value first
  /-- The value is the paired declaration's own unless one that is not mapped comes first. -/
  eq_iff : first = paired ↔ (shape.property first).isMapped = true

namespace Template

variable {shape : Shape} {template : Template}

/-- A record whose first cell of a name differs from the mapped one tells the two apart. -/
theorem exists_not_carries (supplies : ∀ name ∈ template.names, shape.supplies name = true)
    {place first : shape.Place} (isMapped : (shape.property place).isMapped = true)
    (listed : (shape.property place).name ∈ template.names)
    (first_eq : shape.first? (shape.property place).name = some first) (first_ne : first ≠ place) :
    ∃ (other : Record shape) (answer : Statement),
      template.fill (.reflect shape) other = .ok answer ∧ ¬ answer.Carries other := by
  obtain ⟨content, differs⟩ :=
    (shape.property first).type.exists_toValue_ne ((Record.blank shape).value place)
  let other := (Record.blank shape).put first content
  have first_value : other.value first = (shape.property first).type.toValue content := by
    rw [Record.value, Record.reading_of_stored rfl, Record.cell_put_self]
  have place_value : other.value place = (Record.blank shape).value place := by
    rw [Record.value, Record.reading_of_stored rfl, Record.cell_put_of_ne _ content first_ne]
    rfl
  obtain ⟨parameters, bound⟩ :=
    (AccessorTable.exists_bind_eq_ok_iff other template.names).mpr supplies
  refine ⟨other, ⟨template.sql, parameters⟩, by rw [fill, bound]; rfl, fun carries => ?_⟩
  have reached : other.supply? (shape.property place).name = some (other.value first) :=
    Record.supply?_eq_some_iff.mpr ⟨supplies _ listed, first, first_eq, rfl⟩
  have carried := carries place isMapped (other.value first)
    ((AccessorTable.mem_bind_iff bound).mpr ⟨_, listed, rfl, reached⟩)
  exact differs (by rw [← first_value, carried, place_value])

/-- Whatever the record, its mapped declarations have their own values bound exactly if each of
them is the first of its name. -/
theorem carries_iff (supplies : ∀ name ∈ template.names, shape.supplies name = true) :
    (∀ (other : Record shape) (answer : Statement),
        template.fill (.reflect shape) other = .ok answer → answer.Carries other) ↔
      ∀ place, (shape.property place).isMapped = true →
        (shape.property place).name ∈ template.names →
          shape.first? (shape.property place).name = some place := by
  constructor
  · intro carries place isMapped listed
    obtain ⟨first, first_eq⟩ := Shape.exists_first?_eq_some place
    rw [first_eq, Option.some.injEq]
    by_contra first_ne
    obtain ⟨other, answer, filled, uncarried⟩ :=
      exists_not_carries supplies isMapped listed first_eq first_ne
    exact uncarried (carries other answer filled)
  · intro leads other answer filled place isMapped value member
    obtain ⟨parameters, bound, rfl⟩ := map_eq_ok filled
    obtain ⟨name, listed, name_eq, reached⟩ := (AccessorTable.mem_bind_iff bound).mp member
    obtain rfl := parameterName_injective name_eq
    obtain ⟨-, first, first_eq, value_eq⟩ := Record.supply?_eq_some_iff.mp reached
    rw [leads place isMapped listed, Option.some.injEq] at first_eq
    rw [first_eq]
    exact value_eq.symm

end Template

namespace Template.Realizes

variable {template : Template} {model : Model} {dialect : Dialect} {form : StatementForm}
  {record : Record model.toShape} {parameters : List (String × Value)}

/-- What a template binds has a mapped declaration. -/
theorem exists_paired (realizes : template.Realizes model dialect form) {name : String}
    (listed : name ∈ template.names) :
    ∃ paired : model.Place, (model.property paired).name = name ∧
      (model.property paired).isMapped = true ∧
        (model.property paired).pairing ∈ (model.commandUnder dialect form).bound := by
  rw [realizes.names_eq, List.mem_eraseDups] at listed
  obtain ⟨pair, pair_mem, rfl⟩ := List.mem_map.mp listed
  obtain ⟨property, mapped, rfl⟩ := Shape.exists_mapped_of_mem_bound pair_mem
  obtain ⟨paired, rfl, isMapped⟩ := Shape.mem_mapped_iff.mp mapped
  exact ⟨paired, rfl, isMapped, pair_mem⟩

theorem first_eq_iff (realizes : template.Realizes model dialect form) {paired first : model.Place}
    (isMapped : (model.property paired).isMapped = true)
    (first_eq : model.first? (model.property paired).name = some first) :
    first = paired ↔ (model.property first).isMapped = true := by
  constructor
  · rintro rfl
    exact isMapped
  · intro first_mapped
    exact Shape.place_unique realizes.sound first_mapped isMapped
      (Shape.name_of_first?_eq_some first_eq)

theorem supplied (realizes : template.Realizes model dialect form)
    (bound : (AccessorTable.reflect model.toShape).bind record template.names = .ok parameters)
    {parameter : String × Value} (member : parameter ∈ parameters) :
    ∃ paired first, (model.commandUnder dialect form).Supplied record parameter paired first := by
  obtain ⟨name, listed, name_eq, reached⟩ := (AccessorTable.mem_bind_iff bound).mp member
  obtain ⟨paired, rfl, isMapped, pairing_mem⟩ := realizes.exists_paired listed
  obtain ⟨-, first, first_eq, value_eq⟩ := Record.supply?_eq_some_iff.mp reached
  refine ⟨paired, first, name_eq, isMapped, pairing_mem, ?_, first_eq, value_eq.symm,
    realizes.first_eq_iff isMapped first_eq⟩
  intro pair pair_mem same_name
  obtain ⟨property, mapped, rfl⟩ := Shape.exists_mapped_of_mem_bound pair_mem
  have paired_mem : model.property paired ∈ model.mapped :=
    Shape.mem_mapped_iff.mpr ⟨paired, rfl, isMapped⟩
  rw [realizes.sound.eq_of_name_eq mapped paired_mem
    (parameterName_injective (same_name.trans name_eq))]

end Template.Realizes

namespace Gateway

variable {gateway : Gateway} {workspace : Workspace} {model : Model} {kind : StatementKind}

/-- Each parameter of a statement on a whole record is paired with the column of one mapped
declaration and carries the value at the first declaration of its name. All such statements carry the
values of the mapped declarations exactly if those that they bind are the first of their names. -/
theorem values_of_perform {record : Record model.toShape} {statement : Statement}
    (returned : workspace.answer (gateway.perform (.canonical kind record)) = .ok statement) :
    (∃ used : Dialect, used.family = gateway.dialect.family ∧
      let command := model.commandUnder used (.canonical kind)
      statement.sql = command.render used.traits ∧
        ∀ parameter ∈ statement.parameters, ∃ paired first,
          command.Supplied record parameter paired first) ∧
    ((∀ (other : Record model.toShape) (answer : Statement),
        workspace.answer (gateway.perform (.canonical kind other)) = .ok answer →
          answer.Carries other) ↔
      ∀ place, (model.property place).isMapped = true →
        parameterName (model.property place).name ∈ statement.parameters.map Prod.fst →
          model.first? (model.property place).name = some place) := by
  rw [answer_canonical] at returned
  obtain ⟨template, drafted, filled⟩ := bind_eq_ok returned
  obtain ⟨parameters, bound, rfl⟩ := map_eq_ok filled
  have distinct : (StatementForm.canonical kind).Distinct := trivial
  obtain ⟨used, same_family, realizes⟩ := draft_eq_ok distinct drafted
  constructor
  · exact ⟨used, same_family, realizes.sql_eq, fun parameter => realizes.supplied bound⟩
  · have answer_eq (other : Record model.toShape) :
        workspace.answer (gateway.perform (.canonical kind other)) =
          template.fill (.reflect model.toShape) other := by
      rw [answer_canonical, drafted]
      rfl
    simp only [answer_eq, AccessorTable.map_fst_bind bound,
      List.mem_map_of_injective parameterName_injective]
    exact Template.carries_iff fun name => AccessorTable.supplies_of_mem bound

/-- A model whose mapped property comes behind one of the same name that is not mapped. -/
def shadowed : Model where
  name := "Shadowed"
  table := "Accounts"
  properties :=
    [{ name := "X", type := .integer .thirtyTwo, flags := { notMapped := true } },
     { name := "X", type := .integer .thirtyTwo, flags := { key := true } }]

/-- A record of it with 1 in the cell without a column. -/
def shadowedRecord : Record shadowed.toShape :=
  (Record.blank shadowed.toShape).put (0 : Fin 2) (1 : Int32)

theorem values_of_perform_shadowed :
    let gateway : Gateway := ⟨.standard .sqlite, ⟨0⟩⟩
    ∃ statement,
      Workspace.initial.answer (gateway.perform (.canonical .insert shadowedRecord)) = .ok statement ∧
      ∀ parameter ∈ statement.parameters, ∃ (command : Command) (paired first : shadowed.Place),
        command.Supplied shadowedRecord parameter paired first := by
  intro gateway
  refine ⟨_, rfl, fun parameter member => ?_⟩
  obtain ⟨used, -, -, supplied⟩ :=
    (@values_of_perform gateway .initial shadowed .insert shadowedRecord _ rfl).1
  exact ⟨_, supplied parameter member⟩

/-- The value without a column is bound for the column of the other. -/
theorem insert_shadowed :
    let gateway : Gateway := ⟨.standard .sqlite, ⟨0⟩⟩
    ∃ statement,
      Workspace.initial.answer (gateway.insert shadowed shadowedRecord) = .ok statement ∧
      statement.parameters = [("@X", .int 1)] ∧ shadowedRecord.value (1 : Fin 2) = .int 0 ∧
      ¬ statement.Carries shadowedRecord := by
  intro gateway
  refine ⟨_, rfl, rfl, rfl, fun carries => ?_⟩
  have carried := carries (1 : Fin 2) rfl (.int 1) List.mem_cons_self
  exact absurd carried (by decide)

end Gateway

end RowMapping
