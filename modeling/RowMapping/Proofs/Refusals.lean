import RowMapping.Proofs.DialectNeutrality
import RowMapping.Proofs.Mapping.Mentions

/-!
# What stands in the way of a statement

A request for a statement can be refused in five places: by the reflection of the model, for want of
a key, for want of anything to write, for a name that is not mapped, and for a value that cannot be
read. The first of these that applies is reported, and nothing else is.
-/

namespace RowMapping

open TableMapping

/-! ## Texts -/

namespace Model

variable {model : Model} {error : Error} {names : List String}

theorem guard_eq_some_iff {blocked : Prop} [Decidable blocked] {reason : Error} :
    (if blocked then some reason else none) = some error ↔ blocked ∧ error = reason := by
  rw [Option.ite_none_right_eq_some, Option.some.injEq, eq_comm]

theorem keyless?_eq_some_iff :
    model.keyless? = some error ↔ model.keys = [] ∧ error = .ofDefect model.name .noKey := by
  rw [keyless?, guard_eq_some_iff, List.isEmpty_iff]

theorem unknown?_eq_some_iff :
    model.unknown? names = some error ↔
      ∃ name, model.unmapped? names = some name ∧ error = .lookup ⟨model.name, name⟩ := by
  rw [unknown?, Option.map_eq_some_iff]
  exact exists_congr fun name => and_congr_right fun _ => eq_comm

theorem obstacle?_update_eq_some_iff :
    model.obstacle? (.canonical .update) = some error ↔
      (model.keys = [] ∧ error = .ofDefect model.name .noKey) ∨
        (model.keys ≠ [] ∧ model.written = [] ∧ error = .ofDefect model.name .nothingUpdatable) := by
  rw [obstacle?, Option.or_eq_some_iff, keyless?_eq_some_iff, keyless?_eq_none_iff,
    guard_eq_some_iff, List.isEmpty_iff]

theorem obstacle?_updateOf_eq_some_iff :
    model.obstacle? (.updateOf names) = some error ↔
      (model.keys = [] ∧ error = .ofDefect model.name .noKey) ∨
        (model.keys ≠ [] ∧ names = [] ∧ error = .ofDefect model.name .nothingChanged) ∨
          (model.keys ≠ [] ∧
            ∃ name, model.unmapped? names = some name ∧ error = .lookup ⟨model.name, name⟩) := by
  simp only [obstacle?, Option.or_eq_some_iff, Option.or_eq_none_iff, keyless?_eq_some_iff,
    keyless?_eq_none_iff, guard_eq_some_iff, List.isEmpty_iff, unknown?_eq_some_iff, or_assoc]
  refine or_congr_right (or_congr_right ?_)
  constructor
  · rintro ⟨⟨keys_ne, -⟩, unmapped⟩
    exact ⟨keys_ne, unmapped⟩
  · rintro ⟨keys_ne, name, unmapped, error_eq⟩
    have names_ne : names ≠ [] := List.ne_nil_of_mem (model.unmapped?_eq_some unmapped).1
    exact ⟨⟨keys_ne, if_neg names_ne⟩, name, unmapped, error_eq⟩

/-- No conversion takes part in writing a text. -/
theorem obstacle?_ne_conversion (form : StatementForm) (report : ConversionError) :
    model.obstacle? form ≠ some (.conversion report) := by
  have keyed : model.keyless? ≠ some (.conversion report) :=
    fun blocked => nomatch (keyless?_eq_some_iff.mp blocked).2
  have known (names : List String) : model.unknown? names ≠ some (.conversion report) := by
    intro blocked
    obtain ⟨name, -, error_eq⟩ := unknown?_eq_some_iff.mp blocked
    cases error_eq
  cases form with
  | canonical kind =>
      cases kind with
      | insert => exact fun blocked => nomatch blocked
      | update =>
          intro blocked
          rcases obstacle?_update_eq_some_iff.mp blocked with ⟨-, error_eq⟩ | ⟨-, -, error_eq⟩
          all_goals cases error_eq
      | delete | findByKey => exact keyed
  | insertOf names => exact known names
  | updateOf names =>
      intro blocked
      rcases obstacle?_updateOf_eq_some_iff.mp blocked with
        ⟨-, error_eq⟩ | ⟨-, -, error_eq⟩ | ⟨-, name, -, error_eq⟩
      all_goals cases error_eq

end Model

/-- Which texts the statements of a model have, and what stands in the way of each of the others. -/
structure StatementSet.Provides (set : StatementSet) (model : Model) : Prop where
  /-- The whole row can always be inserted. -/
  insert : ∃ text, set.text .insert = .ok text
  update_iff : ∀ error, set.text .update = .error error ↔
    (model.keys = [] ∧ error = .ofDefect model.name .noKey) ∨
      (model.keys ≠ [] ∧ model.written = [] ∧ error = .ofDefect model.name .nothingUpdatable)
  delete_iff : ∀ error, set.text .delete = .error error ↔
    model.keys = [] ∧ error = .ofDefect model.name .noKey
  findByKey_iff : ∀ error, set.text .findByKey = .error error ↔
    model.keys = [] ∧ error = .ofDefect model.name .noKey
  insertPartial_iff : ∀ names error, set.insertPartial names = .error error ↔
    ∃ name, model.unmapped? names = some name ∧ error = .lookup ⟨model.name, name⟩
  /-- Without a key the names do not matter; with one there must be some. -/
  updatePartial_iff : ∀ names error, set.updatePartial names = .error error ↔
    (model.keys = [] ∧ error = .ofDefect model.name .noKey) ∨
      (model.keys ≠ [] ∧ names = [] ∧ error = .ofDefect model.name .nothingChanged) ∨
        (model.keys ≠ [] ∧
          ∃ name, model.unmapped? names = some name ∧ error = .lookup ⟨model.name, name⟩)

theorem TableMapping.Reflects.provides {mapping : TableMapping} {model : Model}
    {traits : DialectTraits} (reflects : mapping.Reflects model traits) (dialect : Dialect) :
    (StatementSet.ofMapping mapping dialect).Provides model := by
  have refused (form : StatementForm) (error : Error) :
      (StatementSet.ofMapping mapping dialect).write form = .error error ↔
        model.obstacle? form = some error := reflects.write_eq_error_iff
  refine ⟨⟨_, rfl⟩, fun error => ?_, fun error => ?_, fun error => ?_, fun names error => ?_,
    fun names error => ?_⟩
  · exact (refused (.canonical .update) error).trans Model.obstacle?_update_eq_some_iff
  · exact (refused (.canonical .delete) error).trans Model.keyless?_eq_some_iff
  · exact (refused (.canonical .findByKey) error).trans Model.keyless?_eq_some_iff
  · exact (refused (.insertOf names) error).trans Model.unknown?_eq_some_iff
  · exact (refused (.updateOf names) error).trans Model.obstacle?_updateOf_eq_some_iff

/-! ## Statements -/

/-- What an operation on the statements of a set answers. -/
structure Operation.Outcome {model : Model} (operation : Operation model) (set : StatementSet)
    (answer : Except Error Statement) : Prop where
  /-- What stands in the way of the text is reported, whatever the values. -/
  refused : ∀ error, set.write operation.form = .error error → answer = .error error
  /-- An available text fails only on the first of the parameters that it mentions whose first
  declaration on the shape of the record is missing or cannot be read. -/
  unbound : ∀ text, set.write operation.form = .ok text →
    ∃ names, set.dialect.Mentions text names ∧
      ∀ error, answer = .error error ↔
        ∃ name, operation.shape.missing? names = some name ∧
          error = .lookup ⟨operation.shape.name, name⟩
  /-- A statement has the text that is available. -/
  returned : ∀ statement, answer = .ok statement →
    set.write operation.form = .ok statement.sql

/-- The first name without a value is the same among all mentions as among those listed. -/
theorem Model.missing?_listed {model : Model} {form : StatementForm}
    (free : model.obstacle? form = none) (shape : Shape) :
    shape.missing? (model.listed form) =
      shape.missing? ((model.mentioned form).map (·.name)) := by
  cases form with
  | canonical kind => exact find?_eraseDups _ _
  | insertOf names =>
      rw [Shape.mentioned, map_name_named_of_obstacle? free (.inl rfl)]
      rfl
  | updateOf names => exact find?_eraseDups _ _

theorem Operation.outcome_draft {model : Model} {origin dialect : Dialect} {mapping : TableMapping}
    (accepted : reflect model origin = .ok mapping) (operation : Operation model) :
    operation.Outcome (.ofMapping mapping dialect)
      (((StatementSet.ofMapping mapping dialect).draft operation.form).bind
        (·.fill (.reflect operation.shape) operation.record)) where
  refused := by
    intro error refused
    rw [StatementSet.draft, refused]
    rfl
  unbound := by
    intro text written
    have reflects := reflects_of_reflect accepted
    refine ⟨_, StatementSet.mentions_write accepted written, fun error => ?_⟩
    rw [reflects.draft_of_write written,
      ← Model.missing?_listed (reflects.obstacle?_of_write written)]
    exact Template.fill_eq_error_iff
  returned := by
    intro statement returned
    obtain ⟨template, drafted, filled⟩ := bind_eq_ok returned
    obtain ⟨text, written, named⟩ := bind_eq_ok drafted
    obtain ⟨names, -, template_eq⟩ := bind_eq_ok named
    obtain ⟨parameters, -, rfl⟩ := map_eq_ok filled
    cases template_eq
    exact written

namespace Operation.Outcome

variable {model : Model} {operation : Operation model} {set : StatementSet}
  {answer : Except Error Statement}

theorem ne_conversion (outcome : operation.Outcome set answer)
    (unconverted : ∀ report, set.write operation.form ≠ .error (.conversion report))
    (report : ConversionError) : answer ≠ .error (.conversion report) := by
  intro failed
  cases written : set.write operation.form with
  | error error =>
      rw [outcome.refused error written] at failed
      cases failed
      exact unconverted report written
  | ok text =>
      obtain ⟨names, -, fails_iff⟩ := outcome.unbound text written
      obtain ⟨name, -, error_eq⟩ := (fails_iff _).mp failed
      cases error_eq

end Operation.Outcome

namespace Gateway

variable {gateway : Gateway} {workspace : Workspace} {model : Model}

/-- A gateway answers under a dialect of its family; with its registry to itself, under its own. -/
theorem exists_answersUnder (gateway : Gateway) (workspace : Workspace) (model : Model) :
    ∃ used : Dialect, used.family = gateway.dialect.family ∧
      (gateway.Exclusive workspace → used = gateway.dialect) ∧
        gateway.AnswersUnder workspace model used := by
  by_cases exclusive : gateway.Exclusive workspace
  · exact ⟨gateway.dialect, rfl, fun _ => rfl, exclusive.answersUnder model⟩
  · obtain ⟨used, same_family, built⟩ :=
      (workspace.registry gateway.registry).exists_request_fst model gateway.dialect
    exact ⟨used, same_family, fun holds => absurd holds exclusive, .of_statements built⟩

theorem AnswersUnder.outcome {used : Dialect} {mapping : TableMapping}
    (answers : gateway.AnswersUnder workspace model used)
    (accepted : reflect model used = .ok mapping) (operation : Operation model) :
    operation.Outcome (.ofMapping mapping used)
      (workspace.answer (gateway.perform operation)) := by
  rw [answers.perform_eq, StatementSet.build, accepted]
  exact operation.outcome_draft accepted

/-- A model that reflection rejects is refused by every operation for the same reason. For any other
the statements are there as far as the model and the names allow, what stands in the way of a text
is reported by every operation that needs it, and an available text fails only on a value that
cannot be read. No operation fails on a conversion. -/
theorem refusals_of_perform (gateway : Gateway) (workspace : Workspace) (model : Model) :
    ∃ used : Dialect, used.family = gateway.dialect.family ∧
      (gateway.Exclusive workspace → used = gateway.dialect) ∧
      (∀ error, reflect model used = .error error → ∀ operation : Operation model,
        workspace.answer (gateway.perform operation) = .error error) ∧
      (∀ mapping, reflect model used = .ok mapping →
        ∃ set, workspace.answer (gateway.statements model) = .ok set ∧ set.Provides model ∧
          ∀ operation : Operation model,
            operation.Outcome set (workspace.answer (gateway.perform operation))) ∧
      ∀ (operation : Operation model) (report : ConversionError),
        workspace.answer (gateway.perform operation) ≠ .error (.conversion report) := by
  obtain ⟨used, same_family, own, answers⟩ := exists_answersUnder gateway workspace model
  refine ⟨used, same_family, own, fun error => answers.perform_eq_error, ?_, ?_⟩
  · intro mapping accepted
    refine ⟨.ofMapping mapping used, ?_, (reflects_of_reflect accepted).provides used,
      answers.outcome accepted⟩
    rw [answers.statements_eq, StatementSet.build, accepted]
    rfl
  · intro operation report
    cases verdict : reflect model used with
    | error error =>
        obtain ⟨defect, -, rfl⟩ := reflect_eq_error_iff.mp verdict
        rw [answers.perform_eq_error verdict]
        intro failed
        cases failed
    | ok mapping =>
        have reflects := reflects_of_reflect verdict
        refine (answers.outcome verdict operation).ne_conversion (fun report refused => ?_) report
        exact model.obstacle?_ne_conversion _ _ (reflects.write_eq_error_iff.mp refused)

/-- A model whose only column is filled by the database. -/
def ticket : Model where
  name := "Ticket"
  table := "Tickets"
  properties :=
    [{ name := "Id", type := .integer .sixtyFour, flags := { key := true, generated := true } }]

/-- Its update has nothing to write; an update of names needs some, and all of them mapped. -/
theorem refusals_of_perform_ticket :
    let gateway : Gateway := ⟨.standard .sqlite, ⟨0⟩⟩
    let record := Record.blank ticket.toShape
    let changes (names : List String) := ((ChangeSet.on record).recordAll names).2
    let answer (operation : Operation ticket) := Workspace.initial.answer (gateway.perform operation)
    answer (.update record) = .error (.configuration
        ⟨.noUpdatableProperty, some "Ticket", "no properties defined that can be updated"⟩) ∧
      answer (.updateChanges (changes [])) =
        .error (.configuration ⟨.emptyChangeset, some "Ticket", "no properties changed"⟩) ∧
      answer (.updateChanges (changes ["Id", "Seat", "Row"])) =
        .error (.lookup ⟨"Ticket", "Seat"⟩) := by
  intro gateway record changes answer
  obtain ⟨used, same_family, -, -, accepted, -⟩ := refusals_of_perform gateway .initial ticket
  obtain rfl := Dialect.eq_of_family_eq_standard same_family
  obtain ⟨set, -, provides, outcome⟩ := accepted _ rfl
  have keys_ne : ticket.keys ≠ [] := by decide
  refine ⟨(outcome (.update record)).refused _ ?_, (outcome (.updateChanges (changes []))).refused _ ?_,
    (outcome (.updateChanges (changes ["Id", "Seat", "Row"]))).refused _ ?_⟩
  · exact (provides.update_iff _).mpr (.inr ⟨keys_ne, rfl, rfl⟩)
  · exact (provides.updatePartial_iff _ _).mpr (.inr (.inl ⟨keys_ne, rfl, rfl⟩))
  · exact (provides.updatePartial_iff _ _).mpr (.inr (.inr ⟨keys_ne, "Seat", rfl, rfl⟩))

end Gateway

end RowMapping
