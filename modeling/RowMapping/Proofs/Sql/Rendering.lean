import RowMapping.Proofs.Sql.Spelling
import RowMapping.Sql.Command

/-!
# The tokens of commands

The text of a command in a built-in dialect spells the tokens of the command: the identifiers of its
path and of its columns, its parameters, and the words and marks between them. Nothing that an
identifier holds can be taken for a token.
-/

namespace RowMapping

/-- Every name among the pairs can follow the sigil of a parameter. -/
def Pairing.Named (pairs : List Pairing) : Prop :=
  ∀ pair ∈ pairs, isParameterName pair.name = true

/-- The pairs whose parameters a command mentions, in order of their places in the text. -/
def Command.bound : Command → List Pairing
  | insert _ values _ => values
  | update _ assigned keys _ => assigned ++ keys
  | delete _ matched => matched
  | select _ _ keys => keys

/-- A command with a text that can be read: it names an object, every list that the grammar asks for
has an item, and every name can be a parameter. -/
def Command.WellFormed : Command → Prop
  | insert path values projection => path ≠ [] ∧ projection ≠ [] ∧ Pairing.Named values
  | update path assigned keys projection =>
      path ≠ [] ∧ assigned ≠ [] ∧ keys ≠ [] ∧ projection ≠ [] ∧
        Pairing.Named assigned ∧ Pairing.Named keys
  | delete path matched => path ≠ [] ∧ matched ≠ [] ∧ Pairing.Named matched
  | select path projection keys =>
      path ≠ [] ∧ projection ≠ [] ∧ keys ≠ [] ∧ Pairing.Named keys

namespace Sql.Token

/-! ## The tokens of the parts of a command -/

/-- A path: its segments with points between them. -/
def ofPath (path : List String) : List Token :=
  [.point].intercalate (path.map fun segment => [.identifier segment])

/-- Columns with commas between them. -/
def ofColumns (pairs : List Pairing) : List Token :=
  [.comma].intercalate (pairs.map fun pair => [.identifier pair.column])

/-- Parameters with commas between them. -/
def ofParameters (pairs : List Pairing) : List Token :=
  [.comma].intercalate (pairs.map fun pair => [.parameter pair.name])

def ofPair (pair : Pairing) : List Token :=
  [.identifier pair.column, .equals, .parameter pair.name]

/-- Columns set equal to their parameters, with the separator between them. -/
def ofPairs (separator : Token) (pairs : List Pairing) : List Token :=
  [separator].intercalate (pairs.map ofPair)

def ofSelection (pairs : List Pairing) : List Token :=
  [.comma].intercalate <|
    pairs.map fun pair => [.identifier pair.column, .word "AS", .identifier pair.name]

def ofOutputColumn : DialectKind → String → List Token
  | .sqlServer, column => [.word "INSERTED", .point, .identifier column]
  | _, column => [.identifier column]

def ofProjection (kind : DialectKind) (pairs : List Pairing) : List Token :=
  [.comma].intercalate <|
    pairs.map fun pair => ofOutputColumn kind pair.column ++ [.word "AS", .identifier pair.name]

def ofOutput (kind : DialectKind) (projection : List Pairing) : List Token :=
  .word kind.traits.style.keyword :: ofProjection kind projection

def ofCondition (pairs : List Pairing) : List Token :=
  .word "WHERE" :: ofPairs (.word "AND") pairs

/-- The object and the columns of an insertion. -/
def ofTarget (path : List String) (values : List Pairing) : List Token :=
  if values.isEmpty then ofPath path
  else ofPath path ++ .openParenthesis :: ofColumns values ++ [.closeParenthesis]

def ofValues (values : List Pairing) : List Token :=
  if values.isEmpty then [.word "DEFAULT", .word "VALUES"]
  else .word "VALUES" :: .openParenthesis :: ofParameters values ++ [.closeParenthesis]

end Sql.Token

open Sql Token

/-- The tokens of a command in a built-in dialect. -/
def Command.tokens (kind : DialectKind) : Command → List Token
  | insert path values projection =>
      [.word "INSERT", .word "INTO"] ++ ofTarget path values ++
        match kind.traits.style with
        | .returning => ofValues values ++ ofOutput kind projection
        | .output => ofOutput kind projection ++ ofValues values
  | update path assigned keys projection =>
      [.word "UPDATE"] ++ ofPath path ++ [.word "SET"] ++ ofPairs .comma assigned ++
        match kind.traits.style with
        | .returning => ofCondition keys ++ ofOutput kind projection
        | .output => ofOutput kind projection ++ ofCondition keys
  | delete path matched =>
      [.word "DELETE", .word "FROM"] ++ ofPath path ++ ofCondition matched
  | select path projection keys =>
      [.word "SELECT"] ++ ofSelection projection ++ [.word "FROM"] ++ ofPath path ++
        ofCondition keys

namespace Sql.Token

variable (kind : DialectKind)

theorem spells_words {text : String} (first second : String)
    (text_eq : text = first ++ " " ++ second) (valid : isWord first ∧ isWord second) :
    Spells kind text [.word first, .word second] := by
  rw [text_eq]
  exact (spells_word kind first valid.1).spaced (spells_word kind second valid.2)

/-! ## The parts of a text spell the parts of a command -/

theorem spells_pathText {path : List String} (path_ne : path ≠ []) :
    Spells kind (kind.traits.pathText path) (ofPath path) :=
  spells_intercalate (separates_point kind) path_ne fun segment _ => spells_quote kind segment

theorem spells_columnsText {pairs : List Pairing} (pairs_ne : pairs ≠ []) :
    Spells kind (kind.traits.columnsText pairs) (ofColumns pairs) :=
  spells_intercalate (separates_comma kind) pairs_ne fun pair _ => spells_quote kind pair.column

theorem spells_parametersText {pairs : List Pairing} (pairs_ne : pairs ≠ [])
    (named : Pairing.Named pairs) :
    Spells kind (Pairing.parametersText pairs) (ofParameters pairs) :=
  spells_intercalate (separates_comma kind) pairs_ne fun pair member =>
    spells_parameterName kind (named pair member)

theorem spells_pairText {pair : Pairing} (valid : isParameterName pair.name = true) :
    Spells kind (kind.traits.pairText pair) (ofPair pair) := by
  have spelled := (spells_quote kind pair.column).separated (separates_equals kind)
    (spells_parameterName kind valid)
  simpa [DialectTraits.pairText, String.join, ofPair] using spelled

theorem spells_pairsText {separator : String} {between : Token}
    (separates : Separates kind separator [between]) {pairs : List Pairing} (pairs_ne : pairs ≠ [])
    (named : Pairing.Named pairs) :
    Spells kind (kind.traits.pairsText separator pairs) (ofPairs between pairs) :=
  spells_intercalate separates pairs_ne fun pair member =>
    spells_pairText kind (named pair member)

theorem separates_as : Separates kind " AS " [.word "AS"] :=
  separates_word kind "AS" (by decide)

theorem separates_and : Separates kind " AND " [.word "AND"] :=
  separates_word kind "AND" (by decide)

theorem spells_outputColumn (column : String) :
    Spells kind (kind.traits.outputColumn column) (ofOutputColumn kind column) := by
  have quoted := spells_quote kind column
  cases kind with
  | postgres => exact quoted
  | sqlite => exact quoted
  | sqlServer =>
      have inserted := spells_word .sqlServer "INSERTED" (by decide)
      have spelling : DialectKind.sqlServer.traits.outputColumn column =
          "INSERTED." ++ DialectKind.sqlServer.traits.quote column := rfl
      have split : "INSERTED." = "INSERTED" ++ "." := by decide
      rw [spelling, split]
      exact inserted.separated (separates_point .sqlServer) quoted

theorem spells_projectionText {pairs : List Pairing} (pairs_ne : pairs ≠ []) :
    Spells kind (kind.traits.projectionText pairs) (ofProjection kind pairs) := by
  refine spells_intercalate (separates_comma kind) pairs_ne fun pair _ => ?_
  have spelled := (spells_outputColumn kind pair.column).separated (separates_as kind)
    (spells_quote kind pair.name)
  simpa [String.join] using spelled

theorem spells_selectionText {pairs : List Pairing} (pairs_ne : pairs ≠ []) :
    Spells kind (kind.traits.selectionText pairs) (ofSelection pairs) := by
  refine spells_intercalate (separates_comma kind) pairs_ne fun pair _ => ?_
  have spelled := (spells_quote kind pair.column).separated (separates_as kind)
    (spells_quote kind pair.name)
  simpa [String.join] using spelled

theorem spells_output (path : List String) {projection : List Pairing}
    (projection_ne : projection ≠ []) :
    Spells kind (Renderer.of kind.traits path projection).output (ofOutput kind projection) := by
  have keyword : Spells kind kind.traits.style.keyword [.word kind.traits.style.keyword] := by
    cases kind <;> exact spells_word _ _ (by decide)
  have spelled := keyword.separated (separates_space kind) (spells_projectionText kind projection_ne)
  simpa [Renderer.output, Renderer.of, String.join, ofOutput] using spelled

theorem spells_conditionText {pairs : List Pairing} (pairs_ne : pairs ≠ [])
    (named : Pairing.Named pairs) :
    Spells kind (kind.traits.conditionText pairs) (ofCondition pairs) := by
  have whereSpelled := spells_word kind "WHERE" (by decide)
  have spelled := whereSpelled.separated (separates_space kind)
    (spells_pairsText kind (separates_and kind) pairs_ne named)
  simpa [DialectTraits.conditionText, String.join, ofCondition] using spelled

theorem spells_target {path : List String} (path_ne : path ≠ [])
    (projection values : List Pairing) :
    Spells kind ((Renderer.of kind.traits path projection).target values)
      (ofTarget path values) := by
  cases values with
  | nil => exact spells_pathText kind path_ne
  | cons value values =>
      have columns := spells_openParenthesis
        (spells_columnsText kind (List.cons_ne_nil value values))
      have spelling : (Renderer.of kind.traits path projection).target (value :: values) =
          kind.traits.pathText path ++ " " ++
            ("(" ++ kind.traits.columnsText (value :: values) ++ ")") := by
        rw [← String.toList_inj]
        simp [Renderer.target, Renderer.of]
      rw [spelling]
      simpa [ofTarget] using (spells_pathText kind path_ne).separated (separates_space kind) columns

theorem spells_valuesText {values : List Pairing} (named : Pairing.Named values) :
    Spells kind (Pairing.valuesText values) (ofValues values) := by
  have valuesSpelled := spells_word kind "VALUES" (by decide)
  cases values with
  | nil =>
      have defaultSpelled := spells_word kind "DEFAULT" (by decide)
      have spelled := defaultSpelled.separated (separates_space kind) valuesSpelled
      simpa [Pairing.valuesText, ofValues] using spelled
  | cons value values =>
      have parameters := spells_openParenthesis
        (spells_parametersText kind (List.cons_ne_nil value values) named)
      have spelling : Pairing.valuesText (value :: values) =
          "VALUES" ++ " " ++ ("(" ++ Pairing.parametersText (value :: values) ++ ")") := by
        rw [← String.toList_inj]
        simp [Pairing.valuesText]
      rw [spelling]
      exact valuesSpelled.spaced parameters

/-- The text of a command spells the tokens of the command. -/
theorem spells_render {command : Command} (wellFormed : command.WellFormed) :
    Spells kind (command.render kind.traits) (command.tokens kind) := by
  cases command with
  | insert path values projection =>
      obtain ⟨path_ne, projection_ne, named⟩ := wellFormed
      have opening : Spells kind "INSERT INTO" [.word "INSERT", .word "INTO"] :=
        spells_words kind "INSERT" "INTO" (by decide) (by decide)
      have target := spells_target kind path_ne projection values
      have row := spells_valuesText kind named
      have output := spells_output kind path projection_ne
      cases style : kind.traits.style with
      | returning =>
          have spelled := spells_sentence
            (.cons opening (.cons target (.cons row (.cons output .nil)))) (by simp)
          simpa [Command.render, Renderer.insert, Renderer.of, Command.tokens, style] using spelled
      | output =>
          have spelled := spells_sentence
            (.cons opening (.cons target (.cons output (.cons row .nil)))) (by simp)
          simpa [Command.render, Renderer.insert, Renderer.of, Command.tokens, style] using spelled
  | update path assigned keys projection =>
      obtain ⟨path_ne, assigned_ne, keys_ne, projection_ne, assignedNamed, keysNamed⟩ := wellFormed
      have opening := spells_word kind "UPDATE" (by decide)
      have target := spells_pathText kind path_ne
      have set := spells_word kind "SET" (by decide)
      have assignment := spells_pairsText kind (separates_comma kind) assigned_ne assignedNamed
      have condition := spells_conditionText kind keys_ne keysNamed
      have output := spells_output kind path projection_ne
      cases style : kind.traits.style with
      | returning =>
          have spelled := spells_sentence
            (.cons opening (.cons target (.cons set (.cons assignment
              (.cons condition (.cons output .nil)))))) (by simp)
          simpa [Command.render, Renderer.update, Renderer.of, Command.tokens, style] using spelled
      | output =>
          have spelled := spells_sentence
            (.cons opening (.cons target (.cons set (.cons assignment
              (.cons output (.cons condition .nil)))))) (by simp)
          simpa [Command.render, Renderer.update, Renderer.of, Command.tokens, style] using spelled
  | delete path matched =>
      obtain ⟨path_ne, matched_ne, named⟩ := wellFormed
      have opening : Spells kind "DELETE FROM" [.word "DELETE", .word "FROM"] :=
        spells_words kind "DELETE" "FROM" (by decide) (by decide)
      have target := spells_pathText kind path_ne
      have condition := spells_conditionText kind matched_ne named
      have spelled := spells_sentence (.cons opening (.cons target (.cons condition .nil))) (by simp)
      simpa [Command.render, Renderer.delete, Renderer.of, Command.tokens] using spelled
  | select path projection keys =>
      obtain ⟨path_ne, projection_ne, keys_ne, named⟩ := wellFormed
      have opening := spells_word kind "SELECT" (by decide)
      have selection := spells_selectionText kind projection_ne
      have source := spells_word kind "FROM" (by decide)
      have target := spells_pathText kind path_ne
      have condition := spells_conditionText kind keys_ne named
      have spelled := spells_sentence
        (.cons opening (.cons selection (.cons source (.cons target (.cons condition .nil)))))
        (by simp)
      simpa [Command.render, Renderer.select, Renderer.of, Command.tokens] using spelled

end Sql.Token

end RowMapping
