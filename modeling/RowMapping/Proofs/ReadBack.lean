import RowMapping.Proofs.Mapping.StatementForm
import RowMapping.Proofs.Sql.Content
import RowMapping.Proofs.Sql.Reading

/-!
# Statements read back

Reading any text of a statement set by the lexical rule of its dialect gives the command that the
declarations of the model call for. Whatever the table, its path and its columns are called, the
text means one statement and no other.
-/

namespace RowMapping

namespace StatementSet

open TableMapping

theorem map_name_named {model : Model} {origin dialect : Dialect} {mapping : TableMapping}
    (accepted : reflect model origin = .ok mapping) {form : StatementForm} {text : String}
    (written : (ofMapping mapping dialect).write form = .ok text) {names : List String}
    (form_eq : form = .insertOf names ∨ form = .updateOf names) :
    (model.named names).map (·.name) = names := by
  have free := (reflects_of_reflect accepted).obstacle?_of_write written
  exact Model.map_name_named_of_obstacle? free form_eq

/-- Reading a text that a statement set of a built-in dialect has written gives the command of its
form: the path with the segments that are given, the pairs of the properties that the form takes, and
the projection on all mapped properties. Named properties stand in the order of their names, and a
row of defaults is asked for exactly if no property is bound. -/
theorem ofText?_write {model : Model} {origin : Dialect} {mapping : TableMapping}
    (accepted : reflect model origin = .ok mapping) (kind : DialectKind) {form : StatementForm}
    {text : String} (written : (ofMapping mapping (.standard kind)).write form = .ok text) :
    let path := model.database.toList ++ (model.schema <|> origin.traits.defaultSchema).toList ++
      [model.table]
    Command.ofText? kind text = some (model.command path form) ∧
      (∀ names, form = .insertOf names ∨ form = .updateOf names →
        (model.named names).map (·.name) = names) ∧
      ∃ tokens, Sql.Token.ofText? kind text = some tokens ∧
        ([.word "DEFAULT", .word "VALUES"] <:+: tokens ↔
          (model.command path form).bound = []) := by
  intro path
  obtain ⟨rfl, wellFormed⟩ := write_eq_ok accepted written
  refine ⟨Command.ofText?_render kind wellFormed, fun names => map_name_named accepted written, ?_⟩
  exact ⟨_, Command.tokens_render kind wellFormed, Command.default_values_infix_iff kind wellFormed⟩

/-- A model whose names are made of delimiters, sigils and separators. -/
def entangled : Model where
  name := "Entangled"
  table := "a]b\"c"
  schema := some "x.y"
  database := some "[db"
  properties :=
    [{ name := "Id", type := .integer .thirtyTwo, column := some "]] = @Note", flags := { key := true } },
     { name := "Note", type := .text, column := some "WHERE \", [@Id]" }]

/-- An update of both properties of such a model is read back as what it is. -/
theorem ofText?_write_entangled :
    ∃ mapping text, reflect entangled (.standard .sqlServer) = .ok mapping ∧
      (ofMapping mapping (.standard .sqlServer)).write (.updateOf ["Note", "Id"]) = .ok text ∧
      Command.ofText? .sqlServer text = some
        (.update ["[db", "x.y", "a]b\"c"]
          [⟨"WHERE \", [@Id]", "Note"⟩, ⟨"]] = @Note", "Id"⟩] [⟨"]] = @Note", "Id"⟩]
          [⟨"]] = @Note", "Id"⟩, ⟨"WHERE \", [@Id]", "Note"⟩]) := by
  refine ⟨_, _, rfl, rfl, ?_⟩
  exact (@ofText?_write entangled (.standard .sqlServer) _ rfl .sqlServer
    (.updateOf ["Note", "Id"]) _ rfl).1

end StatementSet

end RowMapping
