import RowMapping.Proofs.Gateway.Operation
import RowMapping.Proofs.Patch.Writing
import RowMapping.Proofs.Sql.Reading

/-!
# Generated columns in statements

The columns of generated properties are for the database to fill. The statements on a whole record
leave them alone. The statements on a changeset write the column of every recorded name, and a patch
records generated properties like all others: a source that has a property of that name, set where
both are of one shape, is enough to bring a generated column into the statement.
-/

namespace RowMapping

namespace Command

/-- The columns that a command gives values to. -/
def written : Command → List String
  | insert _ values _ => values.map (·.column)
  | update _ assigned _ _ => assigned.map (·.column)
  | delete _ _ | select _ _ _ => []

/-- The command gives no value to a generated column. -/
def Spares (command : Command) (shape : Shape) : Prop :=
  ∀ property ∈ shape.mapped, property.flags.generated = true →
    property.columnName ∉ command.written

end Command

namespace Shape

variable {shape : Shape}

/-- The declarations whose columns a form writes. -/
def assigned (shape : Shape) : StatementForm → List Property
  | .canonical .insert | .canonical .update => shape.written
  | .canonical .delete | .canonical .findByKey => []
  | .insertOf names | .updateOf names => shape.named names

theorem mem_mapped_of_mem_assigned {form : StatementForm} {property : Property}
    (member : property ∈ shape.assigned form) : property ∈ shape.mapped := by
  cases form with
  | canonical kind =>
      cases kind with
      | insert | update => exact shape.mem_mapped_of_mem_written member
      | delete | findByKey => cases member
  | insertOf names | updateOf names => exact shape.mem_mapped_of_mem_named member

theorem written_command (path : List String) (form : StatementForm) :
    (shape.command path form).written = (shape.assigned form).map (·.columnName) := by
  have column_pairings (properties : List Property) :
      (Property.pairings properties).map (·.column) = properties.map (·.columnName) := by
    rw [Property.pairings, List.map_map]
    rfl
  cases form with
  | canonical kind =>
      cases kind with
      | insert | update => exact column_pairings shape.written
      | delete | findByKey => rfl
  | insertOf names | updateOf names => exact column_pairings (shape.named names)

/-- As no two mapped declarations share a column, a column is generated only if the declaration that
the form assigns is. -/
theorem spares_command_iff (sound : TableMapping.Sound shape.mapped) (path : List String)
    (form : StatementForm) :
    (shape.command path form).Spares shape ↔
      ∀ property ∈ shape.assigned form, property.flags.generated = false := by
  rw [Command.Spares, written_command]
  constructor
  · intro spares property assigned
    by_contra generated
    exact spares property (mem_mapped_of_mem_assigned assigned) (by simpa using generated)
      (List.mem_map_of_mem assigned)
  · intro ungenerated property mapped generated listed
    obtain ⟨other, assigned, same_column⟩ := List.mem_map.mp listed
    obtain rfl := List.inj_on_of_nodup_map sound.columns_nodup
      (mem_mapped_of_mem_assigned assigned) mapped same_column
    rw [ungenerated other assigned] at generated
    cases generated

theorem spares_canonical (sound : TableMapping.Sound shape.mapped) (path : List String)
    (kind : StatementKind) : (shape.command path (.canonical kind)).Spares shape := by
  rw [spares_command_iff sound]
  intro property assigned
  cases kind with
  | insert | update => simpa using (List.mem_filter.mp assigned).2
  | delete | findByKey => cases assigned

end Shape

/-- The text of a statement is that of a command in a dialect; a built-in dialect reads it so. -/
structure Statement.Expresses (statement : Statement) (used : Dialect) (command : Command) :
    Prop where
  sql_eq : statement.sql = command.render used.traits
  ofText?_eq : ∀ kind, used = .standard kind → Command.ofText? kind statement.sql = some command

namespace Gateway

variable {gateway : Gateway} {workspace : Workspace} {model : Model}

theorem expresses_of_perform {operation : Operation model} {statement : Statement}
    (returned : workspace.answer (gateway.perform operation) = .ok statement) :
    ∃ used : Dialect, used.family = gateway.dialect.family ∧
      statement.Expresses used (model.commandUnder used operation.form) ∧
        TableMapping.Sound model.mapped := by
  obtain ⟨template, drafted, sql_eq, -⟩ := perform_eq_ok returned
  obtain ⟨used, same_family, realizes⟩ := draft_eq_ok operation.distinct_form drafted
  refine ⟨used, same_family, ⟨sql_eq.trans realizes.sql_eq, ?_⟩, realizes.sound⟩
  rintro kind rfl
  rw [sql_eq, realizes.sql_eq]
  exact Command.ofText?_render kind realizes.wellFormed

variable {source : Shape} {cache : AccessorCache} {old : Record model.toShape}
  {record : Record source} {changes : ChangeSet model.toShape}

/-- A patch brings a generated column into a statement exactly if it carries over a property of that
name. -/
theorem spares_named_iff (applied : (Patch.apply cache old record).1 = .ok changes)
    (sound : TableMapping.Sound model.mapped) (path : List String) {form : StatementForm}
    (form_eq : form = .insertOf changes.names ∨ form = .updateOf changes.names) :
    (model.command path form).Spares model.toShape ↔
      ∀ origin, Patch.carries model.toShape record origin = true →
        ∀ property ∈ model.mapped, property.name = (source.property origin).name →
          property.flags.generated = false := by
  have assigned_eq : model.assigned form = model.named changes.names := by
    rcases form_eq with rfl | rfl <;> rfl
  rw [Shape.spares_command_iff sound, assigned_eq]
  constructor
  · intro ungenerated origin carried property mapped same_name
    have recorded : property.name ∈ changes.names :=
      (Patch.mem_names_of_apply applied).mpr ⟨origin, carried, same_name.symm⟩
    exact ungenerated property ((Shape.mem_named_iff sound).mpr ⟨mapped, recorded⟩)
  · intro ungenerated property named
    obtain ⟨mapped, recorded⟩ := (Shape.mem_named_iff sound).mp named
    obtain ⟨origin, carried, same_name⟩ := (Patch.mem_names_of_apply applied).mp recorded
    exact ungenerated origin carried property mapped same_name.symm

/-- Every answer expresses the command that the declarations call for. On a whole record it gives no
value to a generated column; on what a patch has recorded it does so exactly if the patch carries
over a property that has the name of a generated one. -/
theorem spares_of_perform (applied : (Patch.apply cache old record).1 = .ok changes)
    {operation : Operation model} {statement : Statement}
    (returned : workspace.answer (gateway.perform operation) = .ok statement) :
    ∃ used : Dialect, used.family = gateway.dialect.family ∧
      let command := model.commandUnder used operation.form
      statement.Expresses used command ∧
        (∀ kind, operation.form = .canonical kind → command.Spares model.toShape) ∧
        (operation = .insertChanges changes ∨ operation = .updateChanges changes →
          (command.Spares model.toShape ↔
            ∀ origin, Patch.carries model.toShape record origin = true →
              ∀ property ∈ model.mapped, property.name = (source.property origin).name →
                property.flags.generated = false)) := by
  obtain ⟨used, same_family, expresses, sound⟩ := expresses_of_perform returned
  refine ⟨used, same_family, expresses, ?_, ?_⟩
  · intro kind form_eq
    rw [form_eq]
    exact Shape.spares_canonical sound _ kind
  · rintro (rfl | rfl)
    · exact spares_named_iff applied sound _ (.inl rfl)
    · exact spares_named_iff applied sound _ (.inr rfl)

/-- A model with a generated key. -/
def account : Model where
  name := "Account"
  table := "Accounts"
  properties :=
    [{ name := "Id", type := .integer .thirtyTwo, flags := { key := true, generated := true } },
     { name := "Balance", type := .integer .thirtyTwo }]

/-- A record of it in which only the balance is set. -/
def deposit : Record account.toShape :=
  (Record.blank account.toShape).put ⟨1, Nat.one_lt_two⟩ (250 : Int32)

theorem spares_of_perform_deposit :
    let gateway : Gateway := ⟨.standard .sqlite, ⟨0⟩⟩
    let changes := ((ChangeSet.on deposit).record "Balance").2
    (Patch.apply .empty (.blank account.toShape) deposit).1 = .ok changes ∧
      ∃ statement command,
        Workspace.initial.answer (gateway.updateChanges account changes) = .ok statement ∧
          statement.Expresses (.standard .sqlite) command ∧ command.Spares account.toShape := by
  intro gateway changes
  have applied : (Patch.apply .empty (.blank account.toShape) deposit).1 = .ok changes := rfl
  obtain ⟨statement, returned⟩ :
      ∃ statement, Workspace.initial.answer (gateway.perform (.updateChanges changes)) =
        .ok statement := ⟨_, rfl⟩
  obtain ⟨used, same_family, expresses, -, spares_iff⟩ := spares_of_perform applied returned
  obtain rfl := Dialect.eq_of_family_eq_standard same_family
  refine ⟨applied, statement, _, returned, expresses, (spares_iff (.inr rfl)).mpr ?_⟩
  decide

/-- A record of it in which the key is set as well. -/
def transfer : Record account.toShape :=
  ((Record.blank account.toShape).put ⟨0, Nat.two_pos⟩ (5 : Int32)).put ⟨1, Nat.one_lt_two⟩
    (250 : Int32)

/-- The patch records the key, and both statements write its column. -/
theorem changes_transfer :
    let gateway : Gateway := ⟨.standard .sqlite, ⟨0⟩⟩
    let changes := ((ChangeSet.on transfer).recordAll ["Id", "Balance"]).2
    let path := ["main", "Accounts"]
    let pairs : List Pairing := [⟨"Id", "Id"⟩, ⟨"Balance", "Balance"⟩]
    let inserting : Command := .insert path pairs pairs
    let updating : Command := .update path pairs [⟨"Id", "Id"⟩] pairs
    (Patch.apply .empty (.blank account.toShape) transfer).1 = .ok changes ∧
      (∃ statement,
        Workspace.initial.answer (gateway.insertChanges account changes) = .ok statement ∧
          Command.ofText? .sqlite statement.sql = some inserting) ∧
      (∃ statement,
        Workspace.initial.answer (gateway.updateChanges account changes) = .ok statement ∧
          Command.ofText? .sqlite statement.sql = some updating) ∧
      ¬ inserting.Spares account.toShape ∧ ¬ updating.Spares account.toShape := by
  intro gateway changes path pairs inserting updating
  have reads {operation : Operation account} {statement : Statement}
      (returned : Workspace.initial.answer (gateway.perform operation) = .ok statement) :
      Command.ofText? .sqlite statement.sql =
        some (account.commandUnder (.standard .sqlite) operation.form) := by
    obtain ⟨used, same_family, expresses, -⟩ := expresses_of_perform returned
    obtain rfl := Dialect.eq_of_family_eq_standard same_family
    exact expresses.ofText?_eq .sqlite rfl
  refine ⟨rfl, ⟨_, rfl, @reads (.insertChanges changes) _ rfl⟩,
    ⟨_, rfl, @reads (.updateChanges changes) _ rfl⟩, ?_, ?_⟩
  · intro spares
    exact spares _ List.mem_cons_self rfl List.mem_cons_self
  · intro spares
    exact spares _ List.mem_cons_self rfl List.mem_cons_self

end Gateway

end RowMapping
