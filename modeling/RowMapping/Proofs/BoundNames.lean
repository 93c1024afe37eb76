import RowMapping.Proofs.Distinct
import RowMapping.Proofs.Gateway.Operation
import RowMapping.Proofs.ReadBack
import RowMapping.Proofs.Record.Binding

/-!
# The names that a statement binds

The text of a statement and the list of its parameters are made by separate functions. They agree for
every operation: the list has each parameter that the text mentions once, in the order in which the
text mentions it first.
-/

namespace RowMapping

theorem parameterName_injective : Function.Injective parameterName := by
  intro left right same
  have letters := congrArg String.toList same
  rw [parameterName, parameterName, String.toList_append, String.toList_append] at letters
  exact String.toList_inj.mp (List.append_cancel_left letters)

namespace Gateway

open Sql

variable {gateway : Gateway} {workspace : Workspace} {model : Model}

theorem map_fst_of_perform {operation : Operation model} {statement : Statement}
    (returned : workspace.answer (gateway.perform operation) = .ok statement) :
    ∃ used : Dialect, used.family = gateway.dialect.family ∧
      let command := model.commandUnder used operation.form
      statement.sql = command.render used.traits ∧ command.WellFormed ∧
        statement.parameters.map Prod.fst =
          (command.bound.map (·.name)).eraseDups.map parameterName := by
  obtain ⟨template, drafted, sql_eq, bound⟩ := perform_eq_ok returned
  obtain ⟨used, same_family, realizes⟩ := draft_eq_ok operation.distinct_form drafted
  refine ⟨used, same_family, sql_eq.trans realizes.sql_eq, realizes.wellFormed, ?_⟩
  rw [AccessorTable.map_fst_bind bound, realizes.names_eq]

/-- What an operation returns in a built-in dialect binds exactly the parameters that its text
mentions outside of identifiers, in the order of their first mention, and none twice. -/
theorem parameters_of_perform {kind : DialectKind} (builtIn : gateway.dialect = .standard kind)
    {operation : Operation model} {statement : Statement}
    (returned : workspace.answer (gateway.perform operation) = .ok statement) :
    (statement.parameters.map Prod.fst).Nodup ∧
      ∃ tokens, Token.ofText? kind statement.sql = some tokens ∧
        (Token.parameters tokens).eraseDups.map parameterName =
          statement.parameters.map Prod.fst := by
  obtain ⟨used, same_family, sql_eq, wellFormed, names_eq⟩ := map_fst_of_perform returned
  rw [builtIn] at same_family
  obtain rfl := Dialect.eq_of_family_eq_standard same_family
  constructor
  · rw [names_eq]
    exact (nodup_eraseDups _).map parameterName_injective
  · refine ⟨_, sql_eq ▸ Command.tokens_render kind wellFormed, ?_⟩
    rw [Command.parameters_tokens, names_eq]

/-- An update that also assigns its key, on columns whose names mention parameters. -/
theorem parameters_of_perform_entangled :
    let gateway : Gateway := ⟨.standard .sqlServer, ⟨0⟩⟩
    let changes := ((ChangeSet.on (.blank StatementSet.entangled.toShape)).recordAll ["Note", "Id"]).2
    ∃ statement, Workspace.initial.answer (gateway.perform (.updateChanges changes)) = .ok statement ∧
      statement.parameters.map Prod.fst = ["@Note", "@Id"] ∧
      ∃ tokens, Token.ofText? .sqlServer statement.sql = some tokens ∧
        (Token.parameters tokens).eraseDups.map parameterName = ["@Note", "@Id"] := by
  intro gateway changes
  refine ⟨_, rfl, rfl, ?_⟩
  exact (@parameters_of_perform gateway .initial StatementSet.entangled .sqlServer rfl
    (.updateChanges changes) _ rfl).2

end Gateway

end RowMapping
