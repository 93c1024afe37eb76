import RowMapping.Proofs.Mapping.Mentions

/-!
# The parameters that are listed for a text

The list of parameters of a statement on named properties is made without a look at its text. For an
update it has each parameter of the text once, in the order in which the text mentions it first. For
an insertion it has one entry for every mention, and so the same holds only as long as no name is
given twice.
-/

namespace RowMapping

open TableMapping

/-- Each parameter that a text in a dialect mentions is listed once, in the order in which the text
mentions it first. -/
structure Dialect.Lists (dialect : Dialect) (text : String) (listed : List String) : Prop where
  nodup : listed.Nodup
  /-- They are the mentions of the text, the repeated ones dropped. -/
  exists_mentions : ∃ mentioned, dialect.Mentions text mentioned ∧ mentioned.eraseDups = listed

theorem Dialect.Mentions.lists {dialect : Dialect} {text : String} {mentioned : List String}
    (mentions : dialect.Mentions text mentioned) : dialect.Lists text mentioned.eraseDups :=
  ⟨nodup_eraseDups mentioned, mentioned, mentions, rfl⟩

theorem Dialect.Mentions.lists_iff {dialect : Dialect} {text : String} {mentioned : List String}
    (mentions : dialect.Mentions text mentioned) :
    dialect.Lists text mentioned ↔ mentioned.Nodup := by
  constructor
  · exact Lists.nodup
  · intro distinct
    have lists := mentions.lists
    rwa [eraseDups_of_nodup distinct] at lists

namespace StatementSet

variable {model : Model} {origin : Dialect} {mapping : TableMapping}

/-- Whenever named properties can be inserted, the list for the text has one entry for each of its
mentions; these are the names as they were given. Whenever they can be updated, the list has each
parameter of the text once, in order of first appearance. -/
theorem lists_of_partial (accepted : reflect model origin = .ok mapping) (dialect : Dialect)
    (names : List String) :
    let set := ofMapping mapping dialect
    (∀ text, set.insertPartial names = .ok text →
      set.insertPartialParameters names = .ok names ∧ dialect.Mentions text names ∧
        (dialect.Lists text names ↔ names.Nodup)) ∧
    ∀ text, set.updatePartial names = .ok text →
      ∃ listed, set.updatePartialParameters names = .ok listed ∧ dialect.Lists text listed := by
  intro set
  have reflects := reflects_of_reflect accepted
  constructor
  · intro text inserted
    have written : set.write (.insertOf names) = .ok text := inserted
    have free := reflects.obstacle?_of_write written
    have mentions := mentions_write accepted written
    rw [Shape.mentioned, Model.map_name_named_of_obstacle? free (.inl rfl)] at mentions
    exact ⟨reflects.binds_eq dialect free, mentions, mentions.lists_iff⟩
  · intro text updated
    have written : set.write (.updateOf names) = .ok text := updated
    have free := reflects.obstacle?_of_write written
    exact ⟨_, reflects.binds_eq dialect free, (mentions_write accepted written).lists⟩

/-- A model of a label and its number, whose columns mention other parameters. -/
def label : Model where
  name := "Label"
  table := "Accounts"
  properties :=
    [{ name := "Id", type := .integer .thirtyTwo, column := some "@Text", flags := { key := true } },
     { name := "Text", type := .text, column := some "\", @Id = \"" }]

/-- An update that names the text twice and the key between lists two parameters. -/
theorem lists_of_partial_label :
    ∃ mapping text, reflect label (.standard .postgres) = .ok mapping ∧
      (ofMapping mapping (.standard .postgres)).updatePartial ["Text", "Id", "Text"] = .ok text ∧
      (ofMapping mapping (.standard .postgres)).updatePartialParameters ["Text", "Id", "Text"] =
        .ok ["Text", "Id"] ∧
      (Dialect.standard .postgres).Lists text ["Text", "Id"] := by
  refine ⟨_, _, rfl, rfl, rfl, ?_⟩
  obtain ⟨listed, listed_eq, lists⟩ :=
    (@lists_of_partial label (.standard .postgres) _ rfl (.standard .postgres)
      ["Text", "Id", "Text"]).2 _ rfl
  cases listed_eq
  exact lists

/-- An insertion that names one property twice mentions one parameter, which is listed twice. -/
theorem insertPartialParameters_label :
    ∃ mapping text, reflect label (.standard .sqlite) = .ok mapping ∧
      (ofMapping mapping (.standard .sqlite)).insertPartial ["Text", "Text"] = .ok text ∧
      (∃ tokens, Sql.Token.ofText? .sqlite text = some tokens ∧
        (Sql.Token.parameters tokens).eraseDups = ["Text"]) ∧
      (ofMapping mapping (.standard .sqlite)).insertPartialParameters ["Text", "Text"] =
        .ok ["Text", "Text"] ∧
      ¬ (Dialect.standard .sqlite).Lists text ["Text", "Text"] := by
  refine ⟨_, _, rfl, rfl, ?_, rfl, fun lists => absurd lists.nodup (by decide)⟩
  have mentions := @mentions_write label (.standard .sqlite) (.standard .sqlite) _ rfl
    (.insertOf ["Text", "Text"]) _ rfl
  obtain ⟨tokens, read, parameters_eq⟩ := mentions.exists_tokens .sqlite rfl
  refine ⟨tokens, read, ?_⟩
  rw [parameters_eq]
  rfl

end StatementSet

end RowMapping
