import RowMapping.Proofs.Sql.Rendering
import RowMapping.Sql.Reader

/-!
# Reading commands back

Reading the text of a command gives the command. Each reader takes exactly the tokens of its part,
provided that what follows does not go on with the same part.
-/

namespace RowMapping

namespace Sql.Reader

open Token

/-! ## Readers of lists -/

/-- A reader that goes on behind a separator and stops in `rest` reads every item up to there. -/
theorem read_intercalate {α β : Type} (view : α → β)
    {read : List Token → Option (List β × List Token)} {item : α → List Token}
    {separator : Token} {rest left : List Token}
    (more : ∀ first tail, read (item first ++ separator :: tail) =
      (read tail).map (Prod.map (view first :: ·) id))
    (last : ∀ first, read (item first ++ rest) = some ([view first], left))
    {items : List α} (items_ne : items ≠ []) :
    read ([separator].intercalate (items.map item) ++ rest) = some (items.map view, left) := by
  induction items with
  | nil => exact absurd rfl items_ne
  | cons first items ih =>
      cases items with
      | nil => simpa using last first
      | cons next items =>
          have remaining := ih (List.cons_ne_nil next items)
          rw [List.map_cons, List.map_cons, List.intercalate_cons_cons, ← List.map_cons,
            List.append_assoc, List.append_assoc, List.singleton_append, more, remaining]
          rfl

theorem path?_ofPath {path : List String} (path_ne : path ≠ []) {rest : List Token}
    (rest_head : rest.head? ≠ some .point) : path? (ofPath path ++ rest) = some (path, rest) := by
  have more : ∀ segment tail, path? ([.identifier segment] ++ .point :: tail) =
      (path? tail).map (Prod.map (segment :: ·) id) := fun _ _ => rfl
  have last : ∀ segment, path? ([.identifier segment] ++ rest) = some ([segment], rest) := by
    intro segment
    cases rest with
    | nil => rfl
    | cons next rest =>
        have next_ne : next ≠ .point := by simpa using rest_head
        cases next with
        | point => exact absurd rfl next_ne
        | _ => rfl
  simpa [ofPath] using read_intercalate id more last path_ne

theorem path?_ofPath_word {path : List String} (path_ne : path ≠ []) (word : String)
    (tail : List Token) :
    path? (ofPath path ++ .word word :: tail) = some (path, .word word :: tail) := by
  have word_head : (Token.word word :: tail).head? ≠ some .point := by simp
  exact path?_ofPath path_ne word_head

theorem columns?_ofColumns {pairs : List Pairing} (pairs_ne : pairs ≠ []) (rest : List Token) :
    columns? (ofColumns pairs ++ .closeParenthesis :: rest) = some (pairs.map (·.column), rest) := by
  have more : ∀ (pair : Pairing) tail, columns? ([.identifier pair.column] ++ .comma :: tail) =
      (columns? tail).map (Prod.map (pair.column :: ·) id) := fun _ _ => rfl
  have last : ∀ pair : Pairing, columns? ([.identifier pair.column] ++ .closeParenthesis :: rest) =
      some ([pair.column], rest) := fun _ => rfl
  exact read_intercalate (·.column) more last pairs_ne

theorem parameters?_ofParameters {pairs : List Pairing} (pairs_ne : pairs ≠ [])
    (rest : List Token) :
    parameters? (ofParameters pairs ++ .closeParenthesis :: rest) =
      some (pairs.map (·.name), rest) := by
  have more : ∀ (pair : Pairing) tail, parameters? ([.parameter pair.name] ++ .comma :: tail) =
      (parameters? tail).map (Prod.map (pair.name :: ·) id) := fun _ _ => rfl
  have last : ∀ pair : Pairing, parameters? ([.parameter pair.name] ++ .closeParenthesis :: rest) =
      some ([pair.name], rest) := fun _ => rfl
  exact read_intercalate (·.name) more last pairs_ne

theorem pairs?_ofPairs {separator : Token} {pairs : List Pairing} (pairs_ne : pairs ≠ [])
    {rest : List Token} (rest_head : rest.head? ≠ some separator) :
    pairs? separator (ofPairs separator pairs ++ rest) = some (pairs, rest) := by
  have more : ∀ (pair : Pairing) tail, pairs? separator (ofPair pair ++ separator :: tail) =
      (pairs? separator tail).map (Prod.map (pair :: ·) id) := by
    intro pair tail
    simp only [ofPair, List.cons_append, List.nil_append, pairs?, if_true]
    rfl
  have last : ∀ pair, pairs? separator (ofPair pair ++ rest) = some ([pair], rest) := by
    intro pair
    cases rest with
    | nil => rfl
    | cons next rest =>
        have next_ne : next ≠ separator := by simpa using rest_head
        simp [ofPair, pairs?, next_ne]
  simpa [ofPairs] using read_intercalate id more last pairs_ne

theorem selection?_ofSelection {pairs : List Pairing} (pairs_ne : pairs ≠ [])
    {rest : List Token} (rest_head : rest.head? ≠ some .comma) :
    selection? (ofSelection pairs ++ rest) = some (pairs, rest) := by
  let item (pair : Pairing) : List Token :=
    [.identifier pair.column, .word "AS", .identifier pair.name]
  have more : ∀ pair tail, selection? (item pair ++ .comma :: tail) =
      (selection? tail).map (Prod.map (pair :: ·) id) := fun _ _ => rfl
  have last : ∀ pair, selection? (item pair ++ rest) = some ([pair], rest) := by
    intro pair
    cases rest with
    | nil => rfl
    | cons next rest =>
        have next_ne : next ≠ .comma := by simpa using rest_head
        cases next with
        | comma => exact absurd rfl next_ne
        | _ => rfl
  simpa [ofSelection, item] using read_intercalate id more last pairs_ne

theorem inserted?_ofProjection {pairs : List Pairing} (pairs_ne : pairs ≠ [])
    {rest : List Token} (rest_head : rest.head? ≠ some .comma) :
    inserted? (ofProjection .sqlServer pairs ++ rest) = some (pairs, rest) := by
  let item (pair : Pairing) : List Token :=
    ofOutputColumn .sqlServer pair.column ++ [.word "AS", .identifier pair.name]
  have more : ∀ pair tail, inserted? (item pair ++ .comma :: tail) =
      (inserted? tail).map (Prod.map (pair :: ·) id) := fun _ _ => rfl
  have last : ∀ pair, inserted? (item pair ++ rest) = some ([pair], rest) := by
    intro pair
    cases rest with
    | nil => rfl
    | cons next rest =>
        have next_ne : next ≠ .comma := by simpa using rest_head
        cases next with
        | comma => exact absurd rfl next_ne
        | _ => rfl
  simpa [ofProjection, item] using read_intercalate id more last pairs_ne

/-! ## Readers of parts -/

theorem output?_ofOutput (kind : DialectKind) {projection : List Pairing}
    (projection_ne : projection ≠ []) {rest : List Token} (rest_head : rest.head? ≠ some .comma) :
    output? kind (ofOutput kind projection ++ rest) = some (projection, rest) := by
  cases kind with
  | sqlServer => exact inserted?_ofProjection projection_ne rest_head
  | postgres => exact selection?_ofSelection projection_ne rest_head
  | sqlite => exact selection?_ofSelection projection_ne rest_head

theorem output?_ofOutput_end (kind : DialectKind) {projection : List Pairing}
    (projection_ne : projection ≠ []) :
    output? kind (ofOutput kind projection) = some (projection, []) := by
  have end_head : ([] : List Token).head? ≠ some .comma := by simp
  simpa using output?_ofOutput kind projection_ne end_head

theorem condition?_ofCondition {pairs : List Pairing} (pairs_ne : pairs ≠ []) {rest : List Token}
    (rest_head : rest.head? ≠ some (.word "AND")) :
    condition? (ofCondition pairs ++ rest) = some (pairs, rest) :=
  pairs?_ofPairs pairs_ne rest_head

theorem condition?_ofCondition_end {pairs : List Pairing} (pairs_ne : pairs ≠ []) :
    condition? (ofCondition pairs) = some (pairs, []) := by
  have end_head : ([] : List Token).head? ≠ some (.word "AND") := by simp
  simpa using condition?_ofCondition pairs_ne end_head

theorem insertValues?_ofValues (values : List Pairing) (rest : List Token) :
    insertValues? (ofValues values ++ rest) = some (values.map (·.name), rest) := by
  cases values with
  | nil => rfl
  | cons value values =>
      have read := parameters?_ofParameters (List.cons_ne_nil value values) rest
      change parameters? (ofParameters (value :: values) ++ [.closeParenthesis] ++ rest) = _
      rw [List.append_assoc]
      exact read

theorem pairings?_map (values : List Pairing) :
    pairings? (values.map (·.column)) (values.map (·.name)) = some values := by
  rw [pairings?, if_pos (by simp), List.zipWith_map, List.zipWith_self]
  simp

/-- The object of an insertion is read first, then its columns. -/
theorem path?_ofTarget {path : List String} (path_ne : path ≠ []) (values : List Pairing)
    (word : String) (rest : List Token) :
    ∃ tokens, path? (ofTarget path values ++ .word word :: rest) = some (path, tokens) ∧
      insertColumns? tokens = some (values.map (·.column), .word word :: rest) := by
  cases values with
  | nil =>
      exact ⟨.word word :: rest, path?_ofPath_word path_ne word rest, rfl⟩
  | cons value values =>
      refine ⟨.openParenthesis :: ofColumns (value :: values) ++
        .closeParenthesis :: .word word :: rest, ?_, ?_⟩
      · have openHead : (Token.openParenthesis :: ofColumns (value :: values) ++
            .closeParenthesis :: .word word :: rest).head? ≠ some .point := by simp
        simpa [ofTarget] using path?_ofPath path_ne openHead
      · exact columns?_ofColumns (List.cons_ne_nil value values) _

theorem ofValues_eq_word_cons (values : List Pairing) :
    ∃ word tail, ofValues values = .word word :: tail := by
  cases values with
  | nil => exact ⟨"DEFAULT", [.word "VALUES"], rfl⟩
  | cons value values => exact ⟨"VALUES", _, rfl⟩

/-! ## Readers of commands -/

theorem insert?_tokens (kind : DialectKind) {path : List String} (path_ne : path ≠ [])
    (values : List Pairing) {projection : List Pairing} (projection_ne : projection ≠ []) :
    insert? kind (ofTarget path values ++
      match kind.traits.style with
      | .returning => ofValues values ++ ofOutput kind projection
      | .output => ofOutput kind projection ++ ofValues values) =
        some (.insert path values projection, []) := by
  have pairs := pairings?_map values
  obtain ⟨word, tail, values_eq⟩ := ofValues_eq_word_cons values
  cases style : kind.traits.style with
  | output =>
      have rest_head : (ofValues values).head? ≠ some .comma := by simp [values_eq]
      have output := output?_ofOutput kind projection_ne rest_head
      have row := insertValues?_ofValues values []
      rw [List.append_nil] at row
      obtain ⟨tokens, target, columns⟩ := path?_ofTarget path_ne values kind.traits.style.keyword
        (ofProjection kind projection ++ ofValues values)
      change path? (ofTarget path values ++ (ofOutput kind projection ++ ofValues values)) = _
        at target
      change insertColumns? tokens = some (_, ofOutput kind projection ++ ofValues values)
        at columns
      cases kind with
      | sqlServer => simp [insert?, target, columns, output, row, pairs]
      | postgres => cases style
      | sqlite => cases style
  | returning =>
      have output := output?_ofOutput_end kind projection_ne
      have row := insertValues?_ofValues values (ofOutput kind projection)
      obtain ⟨tokens, target, columns⟩ := path?_ofTarget path_ne values word
        (tail ++ ofOutput kind projection)
      rw [← List.cons_append, ← values_eq] at target columns
      cases kind with
      | sqlServer => cases style
      | postgres => simp [insert?, target, columns, output, row, pairs]
      | sqlite => simp [insert?, target, columns, output, row, pairs]

theorem update?_tokens (kind : DialectKind) {path : List String} (path_ne : path ≠ [])
    {assigned keys projection : List Pairing} (assigned_ne : assigned ≠ []) (keys_ne : keys ≠ [])
    (projection_ne : projection ≠ []) :
    update? kind (ofPath path ++ .word "SET" :: (ofPairs .comma assigned ++
      match kind.traits.style with
      | .returning => ofCondition keys ++ ofOutput kind projection
      | .output => ofOutput kind projection ++ ofCondition keys)) =
        some (.update path assigned keys projection, []) := by
  have target := path?_ofPath_word path_ne "SET"
  cases style : kind.traits.style with
  | output =>
      have output_head : (ofOutput kind projection ++ ofCondition keys).head? ≠ some .comma := by
        simp [ofOutput]
      have condition_head : (ofCondition keys).head? ≠ some .comma := by simp [ofCondition]
      have assignment := pairs?_ofPairs assigned_ne output_head
      have output := output?_ofOutput kind projection_ne condition_head
      have condition := condition?_ofCondition_end keys_ne
      cases kind with
      | sqlServer => simp [update?, target, assignment, output, condition]
      | postgres => cases style
      | sqlite => cases style
  | returning =>
      have condition_head : (ofCondition keys ++ ofOutput kind projection).head? ≠ some .comma := by
        simp [ofCondition]
      have assignment := pairs?_ofPairs assigned_ne condition_head
      have output := output?_ofOutput_end kind projection_ne
      have output_head : (ofOutput kind projection).head? ≠ some (.word "AND") := by
        simp [ofOutput, style, OutputStyle.keyword]
      have condition := condition?_ofCondition keys_ne output_head
      cases kind with
      | sqlServer => cases style
      | postgres => simp [update?, target, assignment, output, condition]
      | sqlite => simp [update?, target, assignment, output, condition]

theorem delete?_tokens {path : List String} (path_ne : path ≠ []) {matched : List Pairing}
    (matched_ne : matched ≠ []) :
    delete? (ofPath path ++ ofCondition matched) = some (.delete path matched, []) := by
  have target := path?_ofPath_word path_ne "WHERE" (ofPairs (.word "AND") matched)
  have condition := condition?_ofCondition_end matched_ne
  change path? (ofPath path ++ ofCondition matched) = some (path, ofCondition matched) at target
  simp [delete?, target, condition]

theorem select?_tokens {path : List String} (path_ne : path ≠ []) {projection keys : List Pairing}
    (projection_ne : projection ≠ []) (keys_ne : keys ≠ []) :
    select? (ofSelection projection ++ .word "FROM" :: (ofPath path ++ ofCondition keys)) =
      some (.select path projection keys, []) := by
  have from_head : (Token.word "FROM" :: (ofPath path ++ ofCondition keys)).head? ≠
      some .comma := by simp
  have selection := selection?_ofSelection projection_ne from_head
  have target := path?_ofPath_word path_ne "WHERE" (ofPairs (.word "AND") keys)
  have condition := condition?_ofCondition_end keys_ne
  change path? (ofPath path ++ ofCondition keys) = some (path, ofCondition keys) at target
  simp [select?, selection, target, condition]

/-- Reading the tokens of a command gives the command and leaves nothing. -/
theorem command?_tokens (kind : DialectKind) {command : Command}
    (wellFormed : command.WellFormed) :
    command? kind (command.tokens kind) = some (command, []) := by
  cases command with
  | insert path values projection =>
      obtain ⟨path_ne, projection_ne, -⟩ := wellFormed
      exact insert?_tokens kind path_ne values projection_ne
  | update path assigned keys projection =>
      obtain ⟨path_ne, assigned_ne, keys_ne, projection_ne, -, -⟩ := wellFormed
      have read := update?_tokens kind path_ne assigned_ne keys_ne projection_ne
      simp only [Command.tokens, List.append_assoc, List.singleton_append]
      exact read
  | delete path matched =>
      obtain ⟨path_ne, matched_ne, -⟩ := wellFormed
      exact delete?_tokens path_ne matched_ne
  | select path projection keys =>
      obtain ⟨path_ne, projection_ne, keys_ne, -⟩ := wellFormed
      simpa [Command.tokens, command?] using select?_tokens path_ne projection_ne keys_ne

end Sql.Reader

theorem Command.tokens_render (kind : DialectKind) {command : Command}
    (wellFormed : command.WellFormed) :
    Sql.Token.ofText? kind (command.render kind.traits) = some (command.tokens kind) :=
  (Sql.Token.spells_render kind wellFormed).ofText?

theorem Command.ofText?_render (kind : DialectKind) {command : Command}
    (wellFormed : command.WellFormed) :
    Command.ofText? kind (command.render kind.traits) = some command := by
  have read := Sql.Reader.command?_tokens kind wellFormed
  simp [Command.ofText?, tokens_render kind wellFormed, read]

end RowMapping
