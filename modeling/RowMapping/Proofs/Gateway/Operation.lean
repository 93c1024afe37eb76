import RowMapping.Proofs.Mapping.StatementForm
import RowMapping.Proofs.Registry.Memory
import RowMapping.Workspace

/-!
# What an operation of a gateway answers

The operations of a gateway differ in the form of their statement and in the record that gives the
values. What a workspace already holds never matters: a registry answers with the statements of the
model under a dialect of the family that was asked for, and the accessors are those of the shape.
So an answer is a draft, which depends on the form alone, filled from the record.
-/

namespace RowMapping

/-- What a run in a workspace answers. -/
def Workspace.answer {α : Type} (workspace : Workspace) (run : StateM Workspace α) : α :=
  (run.run workspace).1

namespace Workspace

theorem answer_bind {α β : Type} (workspace : Workspace) (run : StateM Workspace α)
    (next : α → StateM Workspace β) :
    workspace.answer (run >>= next) =
      (run.run workspace).2.answer (next (workspace.answer run)) := rfl

theorem answer_accessorTable (workspace : Workspace) (shape : Shape) :
    workspace.answer (accessorTable shape) = .reflect shape :=
  workspace.accessors.request_fst shape

end Workspace

/-- What a gateway can be asked to do for a model. -/
inductive Operation (model : Model) where
  /-- Insert a record. -/
  | insert (record : Record model.toShape)
  /-- Update the row of a record. -/
  | update (record : Record model.toShape)
  /-- Delete the row of a record. -/
  | delete (record : Record model.toShape)
  /-- Select a row by the key values in a record of any shape. -/
  | findByKey {shape : Shape} (key : Record shape)
  /-- Insert what a changeset records. -/
  | insertChanges (changes : ChangeSet model.toShape)
  /-- Update what a changeset records. -/
  | updateChanges (changes : ChangeSet model.toShape)

namespace Operation

variable {model : Model}

/-- The operation that works on a whole record of the model. -/
def canonical (kind : StatementKind) (record : Record model.toShape) : Operation model :=
  match kind with
  | .insert => .insert record
  | .update => .update record
  | .delete => .delete record
  | .findByKey => .findByKey record

def form : Operation model → StatementForm
  | insert _ => .canonical .insert
  | update _ => .canonical .update
  | delete _ => .canonical .delete
  | findByKey _ => .canonical .findByKey
  | insertChanges changes => .insertOf changes.names
  | updateChanges changes => .updateOf changes.names

/-- The shape of the record that gives the values. -/
def shape : Operation model → Shape
  | @findByKey _ shape _ => shape
  | _ => model.toShape

/-- The record that gives the values. -/
def record : (operation : Operation model) → Record operation.shape
  | insert record => record
  | update record => record
  | delete record => record
  | findByKey key => key
  | insertChanges changes => changes.target
  | updateChanges changes => changes.target

theorem distinct_form (operation : Operation model) : operation.form.Distinct := by
  cases operation with
  | insertChanges changes => exact changes.nodup_names
  | updateChanges changes => exact changes.nodup_names
  | _ => trivial

end Operation

namespace StatementSet

/-- A form without its values. -/
def draft (set : StatementSet) (form : StatementForm) : Except Error Template := do
  let sql ← set.write form
  let names ← set.binds form
  return ⟨sql, names⟩

end StatementSet

/-- The draft of a form is what the declarations call for, unless something stands in its way. -/
theorem TableMapping.Reflects.draft_eq {mapping : TableMapping} {model : Model}
    {traits : DialectTraits} (reflects : mapping.Reflects model traits) (dialect : Dialect)
    (form : StatementForm) :
    (StatementSet.ofMapping mapping dialect).draft form =
      match model.obstacle? form with
      | some error => .error error
      | none =>
          .ok ⟨(model.command (pathOf model traits).segments form).render dialect.traits,
            model.listed form⟩ := by
  rw [StatementSet.draft, write_ofMapping, reflects.command_eq]
  cases free : model.obstacle? form with
  | some error => rfl
  | none =>
      rw [reflects.binds_eq dialect free]
      rfl

/-- An available text is drafted with the properties that its form binds. -/
theorem TableMapping.Reflects.draft_of_write {mapping : TableMapping} {model : Model}
    {traits : DialectTraits} (reflects : mapping.Reflects model traits) {dialect : Dialect}
    {form : StatementForm} {text : String}
    (written : (StatementSet.ofMapping mapping dialect).write form = .ok text) :
    (StatementSet.ofMapping mapping dialect).draft form = .ok ⟨text, model.listed form⟩ := by
  have free := reflects.obstacle?_of_write written
  rw [reflects.write_eq, free] at written
  rw [reflects.draft_eq, free]
  cases written
  rfl

/-- The command of a form as the declarations of a model call for it under a dialect. -/
def Model.commandUnder (model : Model) (dialect : Dialect) (form : StatementForm) : Command :=
  model.command (TableMapping.pathOf model dialect.traits).segments form

/-- A template for a form on a model: its text is the text of the command, and it binds what the
command mentions. -/
structure Template.Realizes (template : Template) (model : Model) (dialect : Dialect)
    (form : StatementForm) : Prop where
  sql_eq : template.sql = (model.commandUnder dialect form).render dialect.traits
  wellFormed : (model.commandUnder dialect form).WellFormed
  names_eq : template.names = ((model.commandUnder dialect form).bound.map (·.name)).eraseDups
  sound : TableMapping.Sound model.mapped

namespace Gateway

variable {model : Model}

def perform (gateway : Gateway) : Operation model → StateM Workspace (Except Error Statement)
  | .insert record => gateway.insert model record
  | .update record => gateway.update model record
  | .delete record => gateway.delete model record
  | .findByKey key => gateway.findByKey model key
  | .insertChanges changes => gateway.insertChanges model changes
  | .updateChanges changes => gateway.updateChanges model changes

theorem perform_eq (gateway : Gateway) (operation : Operation model) :
    gateway.perform operation = gateway.produce model (·.draft operation.form) operation.record := by
  cases operation <;> rfl

variable {gateway : Gateway} {workspace : Workspace}

theorem statements_eq_ok {set : StatementSet}
    (answered : workspace.answer (gateway.statements model) = .ok set) :
    ∃ used mapping, Dialect.family used = gateway.dialect.family ∧
      TableMapping.reflect model used = .ok mapping ∧ set = .ofMapping mapping used := by
  obtain ⟨used, same_family, built⟩ :=
    (workspace.registry gateway.registry).exists_request_fst model gateway.dialect
  have build_ok : StatementSet.build model used = .ok set := built.symm.trans answered
  obtain ⟨mapping, accepted, rfl⟩ := map_eq_ok build_ok
  exact ⟨used, mapping, same_family, accepted, rfl⟩

theorem statements_of_standard {kind : DialectKind} (builtIn : gateway.dialect = .standard kind) :
    workspace.answer (gateway.statements model) = StatementSet.build model (.standard kind) := by
  obtain ⟨used, same_family, built⟩ :=
    (workspace.registry gateway.registry).exists_request_fst model gateway.dialect
  rw [builtIn] at same_family
  obtain rfl := Dialect.eq_of_family_eq_standard same_family
  exact built

/-- The draft that a gateway answers for a form. -/
def draft (gateway : Gateway) (workspace : Workspace) (model : Model) (form : StatementForm) :
    Except Error Template :=
  (workspace.answer (gateway.statements model)).bind (·.draft form)

theorem draft_eq {set : StatementSet}
    (answered : workspace.answer (gateway.statements model) = .ok set) (form : StatementForm) :
    gateway.draft workspace model form = set.draft form := by
  rw [draft, answered]
  rfl

theorem draft_of_write {set : StatementSet} {form : StatementForm} {text : String}
    (answered : workspace.answer (gateway.statements model) = .ok set)
    (written : set.write form = .ok text) :
    gateway.draft workspace model form = .ok ⟨text, model.listed form⟩ := by
  obtain ⟨used, mapping, -, accepted, rfl⟩ := statements_eq_ok answered
  rw [draft_eq answered]
  exact (TableMapping.reflects_of_reflect accepted).draft_of_write written

/-- A draft is what the declarations call for under a dialect of the family, with nothing in its
way. -/
theorem exists_draft_eq {form : StatementForm} {template : Template}
    (drafted : gateway.draft workspace model form = .ok template) :
    ∃ (used : Dialect) (mapping : TableMapping), used.family = gateway.dialect.family ∧
      mapping.Reflects model used.traits ∧ model.obstacle? form = none ∧
        template = ⟨(model.commandUnder used form).render used.traits, model.listed form⟩ := by
  obtain ⟨set, answered, set_drafted⟩ := bind_eq_ok drafted
  obtain ⟨used, mapping, same_family, accepted, rfl⟩ := statements_eq_ok answered
  have reflects := TableMapping.reflects_of_reflect accepted
  rw [reflects.draft_eq] at set_drafted
  cases free : model.obstacle? form with
  | some error =>
      rw [free] at set_drafted
      cases set_drafted
  | none =>
      rw [free] at set_drafted
      cases set_drafted
      exact ⟨used, mapping, same_family, reflects, rfl, rfl⟩

/-- A draft realizes its form under a dialect of the family. -/
theorem draft_eq_ok {form : StatementForm} (distinct : form.Distinct) {template : Template}
    (drafted : gateway.draft workspace model form = .ok template) :
    ∃ used : Dialect, used.family = gateway.dialect.family ∧
      template.Realizes model used form := by
  obtain ⟨used, mapping, same_family, reflects, free, rfl⟩ := exists_draft_eq drafted
  refine ⟨used, same_family, rfl, reflects.wellFormed_command free, ?_, reflects.sound⟩
  rw [Model.commandUnder, Shape.bound_command, Property.map_name_pairings]
  exact Shape.listed_eq distinct fun names form_eq =>
    Model.map_name_named_of_obstacle? free (.inl form_eq)

theorem answer_produce (gateway : Gateway) (workspace : Workspace) {shape : Shape}
    (template : StatementSet → Except Error Template) (record : Record shape) :
    workspace.answer (gateway.produce model template record) =
      ((workspace.answer (gateway.statements model)).bind template).bind
        (·.fill (.reflect shape) record) := by
  rw [produce, Workspace.answer_bind]
  cases (workspace.answer (gateway.statements model)).bind template with
  | error error => rfl
  | ok template =>
      simp only [Workspace.answer_bind, Workspace.answer_accessorTable]
      rfl

theorem answer_perform (gateway : Gateway) (workspace : Workspace) (operation : Operation model) :
    workspace.answer (gateway.perform operation) =
      (gateway.draft workspace model operation.form).bind
        (·.fill (.reflect operation.shape) operation.record) := by
  rw [perform_eq, answer_produce, draft]

theorem answer_canonical (gateway : Gateway) (workspace : Workspace) (kind : StatementKind)
    (record : Record model.toShape) :
    workspace.answer (gateway.perform (.canonical kind record)) =
      (gateway.draft workspace model (.canonical kind)).bind
        (·.fill (.reflect model.toShape) record) := by
  cases kind <;> exact answer_perform gateway workspace _

/-- A statement that an operation answers is a draft of its form with the values of its record. -/
theorem perform_eq_ok {operation : Operation model} {statement : Statement}
    (returned : workspace.answer (gateway.perform operation) = .ok statement) :
    ∃ template, gateway.draft workspace model operation.form = .ok template ∧
      statement.sql = template.sql ∧
        (AccessorTable.reflect operation.shape).bind operation.record template.names =
          .ok statement.parameters := by
  rw [answer_perform] at returned
  obtain ⟨template, drafted, filled⟩ := bind_eq_ok returned
  obtain ⟨parameters, bound, rfl⟩ := map_eq_ok filled
  exact ⟨template, drafted, rfl, bound⟩

/-- A statement that an operation answers is what the declarations call for under a dialect of the
family, with nothing in its way. -/
theorem exists_perform_eq {operation : Operation model} {statement : Statement}
    (returned : workspace.answer (gateway.perform operation) = .ok statement) :
    ∃ (used : Dialect) (mapping : TableMapping), used.family = gateway.dialect.family ∧
      mapping.Reflects model used.traits ∧ model.obstacle? operation.form = none ∧
        statement.sql = (model.commandUnder used operation.form).render used.traits ∧
          (AccessorTable.reflect operation.shape).bind operation.record
            (model.listed operation.form) = .ok statement.parameters := by
  obtain ⟨template, drafted, sql_eq, bound⟩ := perform_eq_ok returned
  obtain ⟨used, mapping, same_family, reflects, free, rfl⟩ := exists_draft_eq drafted
  exact ⟨used, mapping, same_family, reflects, free, sql_eq, bound⟩

end Gateway

end RowMapping
