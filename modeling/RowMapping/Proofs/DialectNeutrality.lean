import RowMapping.Proofs.Memoization
import RowMapping.Proofs.Record.Binding

/-!
# What dialects leave alone

A dialect shows in texts only. Gateways that have their registries to themselves, and whose dialects
reach the database of a model, accept the same models, bind the same parameters and fail with the
same errors. The texts themselves differ in quoting, in the request for the affected row and in the
schema of a model that names none; two built-in dialects differ in the last alone.
-/

namespace RowMapping

/-! ## Reflection under two dialects -/

namespace TableMapping

variable {model : Model}

/-- Where both dialects reach the database, a defect does not depend on the dialect. -/
theorem FirstDefect.of_admits {left right : DialectTraits} (leftAdmits : left.Admits model)
    (rightAdmits : right.Admits model) {defect : Defect} (first : FirstDefect model left defect) :
    FirstDefect model right defect := by
  cases first with
  | emptyTableName blank => exact .emptyTableName blank
  | unreachableDatabase named database_eq barred =>
      simp [DialectTraits.Admits, database_eq, barred] at leftAdmits
  | faulty named admits split sound faulty => exact .faulty named rightAdmits split sound faulty
  | nothingMapped named admits mapped_eq => exact .nothingMapped named rightAdmits mapped_eq

/-- A model is rejected under all dialects that reach its database or under none, for one reason. -/
theorem reflect_eq_error_of_admits {left right : Dialect} (leftAdmits : left.traits.Admits model)
    (rightAdmits : right.traits.Admits model) {error : Error}
    (rejected : reflect model left = .error error) : reflect model right = .error error := by
  obtain ⟨defect, first, rfl⟩ := reflect_eq_error_iff.mp rejected
  exact reflect_eq_error_iff.mpr ⟨defect, first.of_admits leftAdmits rightAdmits, rfl⟩

theorem admits_of_reflect {dialect : Dialect} {mapping : TableMapping}
    (accepted : reflect model dialect = .ok mapping) : dialect.traits.Admits model :=
  (reflect_eq_ok_iff.mp accepted).1.admits

end TableMapping

namespace Gateway

open Registry TableMapping

variable {gateway : Gateway} {workspace : Workspace} {model : Model}

/-! ## Registries of one dialect -/

/-- Whatever the registry of a gateway has been asked for was in the gateway's own dialect. -/
def Exclusive (gateway : Gateway) (workspace : Workspace) : Prop :=
  ∃ received, (gateway.registryIn workspace).Remembers received ∧
    ∀ inquiry ∈ received, inquiry.dialect = gateway.dialect

namespace Exclusive

theorem of_empty (fresh : gateway.registryIn workspace = .empty) : gateway.Exclusive workspace :=
  ⟨[], fresh ▸ .empty, fun _ member => absurd member List.not_mem_nil⟩

theorem after_perform (exclusive : gateway.Exclusive workspace) (operation : Operation model) :
    gateway.Exclusive (workspace.after (gateway.perform operation)) := by
  obtain ⟨received, remembers, own⟩ := exclusive
  refine ⟨received ++ [⟨model, gateway.dialect⟩], ?_, ?_⟩
  · obtain ⟨accessors, performed⟩ := gateway.after_perform workspace operation
    rw [registryIn, performed, registry_after_statements, if_pos rfl]
    exact remembers.request_snd ⟨model, gateway.dialect⟩
  · intro inquiry member
    rcases List.mem_append.mp member with before | last
    · exact own inquiry before
    · rw [List.mem_singleton.mp last]

theorem answersUnder (exclusive : gateway.Exclusive workspace) (model : Model) :
    gateway.AnswersUnder workspace model gateway.dialect := by
  obtain ⟨received, remembers, own⟩ := exclusive
  obtain ⟨first, found, answers⟩ := exists_first_of_remembers remembers model
  have same_dialect : first.dialect = gateway.dialect := by
    rcases List.mem_append.mp (mem_of_first?_eq_some found).1 with before | last
    · exact own first before
    · rw [List.mem_singleton.mp last]
  rw [← same_dialect]
  exact answers

end Exclusive

/-- The workspace after a gateway has performed some operations, each on a model of its own. -/
def afterAll (gateway : Gateway) (workspace : Workspace) :
    List ((model : Model) × Operation model) → Workspace
  | [] => workspace
  | ⟨_, operation⟩ :: tasks =>
      gateway.afterAll (workspace.after (gateway.perform operation)) tasks

theorem Exclusive.afterAll (exclusive : gateway.Exclusive workspace)
    (tasks : List ((model : Model) × Operation model)) :
    gateway.Exclusive (gateway.afterAll workspace tasks) := by
  induction tasks generalizing workspace with
  | nil => exact exclusive
  | cons task tasks ih => exact ih (exclusive.after_perform task.2)

/-! ## Two dialects -/

theorem map_parameters_fill {shape : Shape} (template : Template) (record : Record shape) :
    (template.fill (.reflect shape) record).map (·.parameters) =
      (AccessorTable.reflect shape).bind record template.names := by
  rw [Template.fill]
  cases (AccessorTable.reflect shape).bind record template.names <;> rfl

/-- Once a model is accepted, the dialect decides nothing but texts. -/
theorem AnswersUnder.parameters_eq {dialect : Dialect} {mapping : TableMapping}
    (answers : gateway.AnswersUnder workspace model dialect)
    (accepted : reflect model dialect = .ok mapping) (operation : Operation model) :
    (workspace.answer (gateway.perform operation)).map (·.parameters) =
      match model.obstacle? operation.form with
      | some error => .error error
      | none =>
          (AccessorTable.reflect operation.shape).bind operation.record
            (model.listed operation.form) := by
  have built : StatementSet.build model dialect = .ok (.ofMapping mapping dialect) := by
    rw [StatementSet.build, accepted]
    rfl
  rw [answers.perform_eq, built]
  change (((StatementSet.ofMapping mapping dialect).draft operation.form).bind _).map _ = _
  rw [(reflects_of_reflect accepted).draft_eq]
  cases model.obstacle? operation.form with
  | some error => rfl
  | none => exact map_parameters_fill _ operation.record

theorem AnswersUnder.perform_eq_error {dialect : Dialect} {error : Error}
    (answers : gateway.AnswersUnder workspace model dialect)
    (rejected : reflect model dialect = .error error) (operation : Operation model) :
    workspace.answer (gateway.perform operation) = .error error := by
  rw [answers.perform_eq, StatementSet.build, rejected]
  rfl

/-- Two gateways tell the same about a model, except for the texts. -/
structure AnswersAlike (left right : Gateway) (leftWorkspace rightWorkspace : Workspace)
    (model : Model) : Prop where
  reflect_iff : ∀ error,
    reflect model left.dialect = .error error ↔ reflect model right.dialect = .error error
  statements_iff : ∀ error,
    leftWorkspace.answer (left.statements model) = .error error ↔
      rightWorkspace.answer (right.statements model) = .error error
  /-- Both answer the same parameters or the same error. -/
  parameters_eq : ∀ operation : Operation model,
    (leftWorkspace.answer (left.perform operation)).map (·.parameters) =
      (rightWorkspace.answer (right.perform operation)).map (·.parameters)

theorem AnswersAlike.of_answersUnder {left right : Gateway}
    {leftWorkspace rightWorkspace : Workspace}
    (leftAnswers : left.AnswersUnder leftWorkspace model left.dialect)
    (rightAnswers : right.AnswersUnder rightWorkspace model right.dialect)
    (leftAdmits : left.dialect.traits.Admits model)
    (rightAdmits : right.dialect.traits.Admits model) :
    left.AnswersAlike right leftWorkspace rightWorkspace model := by
  have reflect_iff (error : Error) :
      reflect model left.dialect = .error error ↔ reflect model right.dialect = .error error :=
    ⟨reflect_eq_error_of_admits leftAdmits rightAdmits,
      reflect_eq_error_of_admits rightAdmits leftAdmits⟩
  have build_eq_error_iff (dialect : Dialect) (error : Error) :
      StatementSet.build model dialect = .error error ↔ reflect model dialect = .error error := by
    rw [StatementSet.build]
    cases reflect model dialect <;> simp [Except.map]
  refine ⟨reflect_iff, fun error => ?_, fun operation => ?_⟩
  · rw [leftAnswers.statements_eq, rightAnswers.statements_eq, build_eq_error_iff,
      build_eq_error_iff, reflect_iff]
  · cases accepted : reflect model left.dialect with
    | error error =>
        rw [leftAnswers.perform_eq_error accepted,
          rightAnswers.perform_eq_error ((reflect_iff error).mp accepted)]
    | ok mapping =>
        cases other : reflect model right.dialect with
        | error error =>
            rw [(reflect_iff error).mpr other] at accepted
            cases accepted
        | ok otherMapping =>
            rw [leftAnswers.parameters_eq accepted, rightAnswers.parameters_eq other]

/-! ## Texts of two built-in dialects -/

theorem render_postgres (command : Command) :
    command.render DialectKind.postgres.traits = command.render DialectKind.sqlite.traits := by
  cases command <;> rfl

/-- Dialects that place a model under one path and render alike write the same texts on it. -/
theorem write_build {left right : Dialect}
    (same_path : pathOf model left.traits = pathOf model right.traits)
    (same_reach : left.traits.crossDatabase = right.traits.crossDatabase)
    (same_text : ∀ command : Command, command.render left.traits = command.render right.traits)
    {form : StatementForm} {text : String}
    (written : (StatementSet.build model left).bind (·.write form) = .ok text) :
    (StatementSet.build model right).bind (·.write form) = .ok text := by
  obtain ⟨set, built, set_written⟩ := bind_eq_ok written
  obtain ⟨mapping, accepted, rfl⟩ := map_eq_ok built
  have leftAdmits := admits_of_reflect accepted
  have rightAdmits : right.traits.Admits model := leftAdmits.imp_right same_reach.symm.trans
  cases other : reflect model right with
  | error error =>
      rw [reflect_eq_error_of_admits rightAdmits leftAdmits other] at accepted
      cases accepted
  | ok otherMapping =>
      have reflects := reflects_of_reflect accepted
      have otherReflects := reflects_of_reflect other
      rw [StatementSet.build, other]
      change (StatementSet.ofMapping otherMapping right).write form = _
      rw [write_ofMapping, otherReflects.command_eq, ← same_path, ← reflects.command_eq,
        ← set_written, write_ofMapping]
      exact congrArg (Except.map · _) (funext fun command => (same_text command).symm)

/-- What two gateways tell about a model does not depend on their dialects, except for the texts,
whatever they have done on registries of their own. On a model that names its schema, two of the
built-in dialects have the same texts. -/
theorem answers_alike :
    (∀ (left right : Gateway) (leftWorkspace rightWorkspace : Workspace)
        (leftTasks rightTasks : List ((model : Model) × Operation model)) (model : Model),
      left.registryIn leftWorkspace = .empty → right.registryIn rightWorkspace = .empty →
      left.dialect.traits.Admits model → right.dialect.traits.Admits model →
      left.AnswersAlike right (left.afterAll leftWorkspace leftTasks)
        (right.afterAll rightWorkspace rightTasks) model) ∧
    ∀ (postgres sqlite : Gateway) (workspace otherWorkspace : Workspace) (model : Model),
      postgres.dialect = .standard .postgres → sqlite.dialect = .standard .sqlite →
      model.schema.isSome = true → ∀ (form : StatementForm) (text : String),
        (workspace.answer (postgres.statements model)).bind (·.write form) = .ok text ↔
          (otherWorkspace.answer (sqlite.statements model)).bind (·.write form) = .ok text := by
  constructor
  · intro left right leftWorkspace rightWorkspace leftTasks rightTasks model leftFresh rightFresh
      leftAdmits rightAdmits
    exact .of_answersUnder (((Exclusive.of_empty leftFresh).afterAll leftTasks).answersUnder model)
      (((Exclusive.of_empty rightFresh).afterAll rightTasks).answersUnder model) leftAdmits
      rightAdmits
  · intro postgres sqlite workspace otherWorkspace model isPostgres isSqlite schemaNamed form text
    rw [statements_of_standard isPostgres, statements_of_standard isSqlite]
    have same_path :
        pathOf model DialectKind.postgres.traits = pathOf model DialectKind.sqlite.traits := by
      obtain ⟨schema, named⟩ := Option.isSome_iff_exists.mp schemaNamed
      rw [pathOf, pathOf, named]
      rfl
    constructor
    · exact @write_build model (.standard .postgres) (.standard .sqlite) same_path rfl
        render_postgres form text
    · exact @write_build model (.standard .sqlite) (.standard .postgres) same_path.symm rfl
        (fun command => (render_postgres command).symm) form text

/-- A model that names its schema. -/
def reading : Model where
  name := "Reading"
  table := "Readings"
  schema := some "sensors"
  properties :=
    [{ name := "Id", type := .integer .thirtyTwo, flags := { key := true, generated := true } },
     { name := "Level", type := .integer .sixteen, column := some "level" }]

def thirdReading : Record reading.toShape :=
  let number : Int32 := 3
  (Record.blank reading.toShape).put ⟨0, Nat.two_pos⟩ number

/-- A built-in dialect and one of its own bind the same; two built-in ones write the same. -/
theorem answers_alike_reading :
    let sqlServer : Gateway := ⟨.standard .sqlServer, ⟨0⟩⟩
    let other : Gateway := ⟨quoting "|", ⟨1⟩⟩
    let postgres : Gateway := ⟨.standard .postgres, ⟨2⟩⟩
    let sqlite : Gateway := ⟨.standard .sqlite, ⟨3⟩⟩
    let initial := Workspace.initial
    (initial.answer (sqlServer.update reading thirdReading)).map (·.parameters) =
        .ok [("@Level", .smallInt 0), ("@Id", .int 3)] ∧
      (initial.answer (other.update reading thirdReading)).map (·.parameters) =
        .ok [("@Level", .smallInt 0), ("@Id", .int 3)] ∧
      ∃ text, (initial.answer (postgres.statements reading)).bind (·.write (.canonical .update)) =
          .ok text ∧
        (initial.answer (sqlite.statements reading)).bind (·.write (.canonical .update)) =
          .ok text := by
  intro sqlServer other postgres sqlite initial
  have bound : (initial.answer (sqlServer.update reading thirdReading)).map (·.parameters) =
      .ok [("@Level", .smallInt 0), ("@Id", .int 3)] := rfl
  have alike := answers_alike.1 sqlServer other initial initial [] [] reading rfl rfl (.inl rfl)
    (.inl rfl)
  refine ⟨bound, (alike.parameters_eq (.update thirdReading)).symm.trans bound, _, rfl, ?_⟩
  exact (answers_alike.2 postgres sqlite initial initial reading rfl rfl rfl (.canonical .update)
    _).mp rfl

end Gateway

end RowMapping
