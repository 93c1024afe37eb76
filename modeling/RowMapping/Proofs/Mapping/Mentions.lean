import RowMapping.Proofs.Mapping.StatementForm
import RowMapping.Proofs.Sql.Content
import RowMapping.Proofs.Sql.Reading

/-!
# The parameters that texts mention

A text of a statement set is that of a command, and it mentions the names that the command binds, in
their order and as often as the command binds them. The tokens of a text in a built-in dialect show
the same.
-/

namespace RowMapping

open Sql

/-- The names of the parameters that a text in a dialect mentions, one for every mention. -/
structure Dialect.Mentions (dialect : Dialect) (text : String) (names : List String) : Prop where
  /-- It is the text of a command that binds them. -/
  exists_command : ∃ command : Command,
    command.WellFormed ∧ text = command.render dialect.traits ∧ command.bound.map (·.name) = names
  /-- In a built-in dialect they are the parameters among its tokens. -/
  exists_tokens : ∀ kind, dialect = .standard kind →
    ∃ tokens, Token.ofText? kind text = some tokens ∧ Token.parameters tokens = names

/-- The text of a form mentions the parameters of the declarations that the form is about. -/
theorem StatementSet.mentions_write {model : Model} {origin dialect : Dialect}
    {mapping : TableMapping} (accepted : TableMapping.reflect model origin = .ok mapping)
    {form : StatementForm} {text : String}
    (written : (ofMapping mapping dialect).write form = .ok text) :
    dialect.Mentions text ((model.mentioned form).map (·.name)) := by
  obtain ⟨text_eq, wellFormed⟩ := write_eq_ok accepted written
  have names_eq (path : List String) :
      (model.command path form).bound.map (·.name) = (model.mentioned form).map (·.name) := by
    rw [Shape.bound_command, Property.map_name_pairings]
  refine ⟨⟨_, wellFormed, text_eq, names_eq _⟩, ?_⟩
  rintro kind rfl
  refine ⟨_, text_eq ▸ Command.tokens_render kind wellFormed, ?_⟩
  rw [Command.parameters_tokens, names_eq]

end RowMapping
