import RowMapping.Proofs.Sql.Rendering

/-!
# What the tokens of a command mention

The parameters among the tokens of a command are the names that it binds, in order. The words for a
row of defaults stand among them exactly if the command binds nothing.
-/

namespace RowMapping

namespace Sql.Token

/-! ## Parameters -/

@[simp]
theorem parameters_nil : parameters [] = [] := rfl

@[simp]
theorem parameters_word_cons (word : String) (tokens : List Token) :
    parameters (.word word :: tokens) = parameters tokens := rfl

@[simp]
theorem parameters_append (front back : List Token) :
    parameters (front ++ back) = parameters front ++ parameters back :=
  List.filterMap_append

theorem parameters_cons (token : Token) (tokens : List Token) :
    parameters (token :: tokens) = parameters [token] ++ parameters tokens :=
  parameters_append [token] tokens

theorem parameters_intercalate {separator : Token} (separator_free : parameters [separator] = [])
    (items : List (List Token)) :
    parameters ([separator].intercalate items) = items.flatMap parameters := by
  induction items with
  | nil => rfl
  | cons item items ih =>
      cases items with
      | nil => simp
      | cons next items =>
          rw [List.intercalate_cons_cons, parameters_append, parameters_append, separator_free, ih]
          simp

@[simp]
theorem parameters_ofPath (path : List String) : parameters (ofPath path) = [] := by
  rw [ofPath, parameters_intercalate rfl, List.flatMap_map]
  simp [parameters]

@[simp]
theorem parameters_ofColumns (pairs : List Pairing) : parameters (ofColumns pairs) = [] := by
  rw [ofColumns, parameters_intercalate rfl, List.flatMap_map]
  simp [parameters]

@[simp]
theorem parameters_ofParameters (pairs : List Pairing) :
    parameters (ofParameters pairs) = pairs.map (·.name) := by
  rw [ofParameters, parameters_intercalate rfl, List.flatMap_map, List.map_eq_flatMap]
  rfl

@[simp]
theorem parameters_ofPairs {separator : Token} (separator_free : parameters [separator] = [])
    (pairs : List Pairing) : parameters (ofPairs separator pairs) = pairs.map (·.name) := by
  rw [ofPairs, parameters_intercalate separator_free, List.flatMap_map, List.map_eq_flatMap]
  rfl

@[simp]
theorem parameters_ofSelection (pairs : List Pairing) : parameters (ofSelection pairs) = [] := by
  rw [ofSelection, parameters_intercalate rfl, List.flatMap_map]
  simp [parameters]

@[simp]
theorem parameters_ofOutput (kind : DialectKind) (projection : List Pairing) :
    parameters (ofOutput kind projection) = [] := by
  have columns : ∀ pair : Pairing, parameters (ofOutputColumn kind pair.column ++
      [.word "AS", .identifier pair.name]) = [] := by
    intro pair
    cases kind <;> rfl
  rw [ofOutput, ofProjection, parameters_cons, parameters_intercalate rfl, List.flatMap_map]
  simp only [columns]
  simp [parameters]

@[simp]
theorem parameters_ofCondition (pairs : List Pairing) :
    parameters (ofCondition pairs) = pairs.map (·.name) := by
  rw [ofCondition, parameters_cons, parameters_ofPairs rfl]
  rfl

@[simp]
theorem parameters_ofTarget (path : List String) (values : List Pairing) :
    parameters (ofTarget path values) = [] := by
  cases values with
  | nil => exact parameters_ofPath path
  | cons value values =>
      simp only [ofTarget, List.isEmpty_cons, Bool.false_eq_true, if_false]
      rw [parameters_append, parameters_append, parameters_cons, parameters_ofPath,
        parameters_ofColumns]
      rfl

@[simp]
theorem parameters_ofValues (values : List Pairing) :
    parameters (ofValues values) = values.map (·.name) := by
  cases values with
  | nil => rfl
  | cons value values =>
      simp only [ofValues, List.isEmpty_cons, Bool.false_eq_true, if_false]
      rw [parameters_append, parameters_cons, parameters_cons .openParenthesis,
        parameters_ofParameters]
      simp [parameters]

end Sql.Token

open Sql Token

/-- The parameters among the tokens of a command are the names that it binds, in order. -/
theorem Command.parameters_tokens (kind : DialectKind) (command : Command) :
    parameters (command.tokens kind) = command.bound.map (·.name) := by
  have comma_free : parameters [.comma] = [] := rfl
  cases command with
  | insert path values projection =>
      cases style : kind.traits.style <;> simp [Command.tokens, bound, style]
  | update path assigned keys projection =>
      cases style : kind.traits.style <;>
        simp [Command.tokens, bound, style, parameters_ofPairs comma_free]
  | delete path matched => simp [Command.tokens, bound]
  | select path projection keys => simp [Command.tokens, bound]

namespace Sql.Token

/-! ## Rows of defaults -/

theorem notin_intercalate {α : Type} {token separator : Token} {item : α → List Token}
    (token_ne : token ≠ separator) (notin : ∀ part, token ∉ item part) (parts : List α) :
    token ∉ [separator].intercalate (parts.map item) := by
  induction parts with
  | nil => exact List.not_mem_nil
  | cons part parts ih =>
      cases parts with
      | nil => simpa using notin part
      | cons next parts =>
          rw [List.map_cons] at ih
          rw [List.map_cons, List.map_cons, List.intercalate_cons_cons]
          simp [notin part, token_ne, ih]

theorem default_notin_ofPath (path : List String) : .word "DEFAULT" ∉ ofPath path :=
  notin_intercalate (by simp) (by simp) path

theorem default_notin_ofColumns (pairs : List Pairing) : .word "DEFAULT" ∉ ofColumns pairs :=
  notin_intercalate (by simp) (by simp) pairs

theorem default_notin_ofParameters (pairs : List Pairing) :
    .word "DEFAULT" ∉ ofParameters pairs :=
  notin_intercalate (by simp) (by simp) pairs

theorem default_notin_ofPairs {separator : Token} (separator_ne : .word "DEFAULT" ≠ separator)
    (pairs : List Pairing) : .word "DEFAULT" ∉ ofPairs separator pairs :=
  notin_intercalate separator_ne (by simp [ofPair]) pairs

theorem default_notin_ofSelection (pairs : List Pairing) :
    .word "DEFAULT" ∉ ofSelection pairs :=
  notin_intercalate (by simp) (by simp) pairs

theorem default_notin_ofOutput (kind : DialectKind) (projection : List Pairing) :
    .word "DEFAULT" ∉ ofOutput kind projection := by
  have projection_notin : .word "DEFAULT" ∉ ofProjection kind projection := by
    refine notin_intercalate (by simp) (fun pair => ?_) projection
    cases kind <;> simp [ofOutputColumn]
  have keyword_ne : "DEFAULT" ≠ kind.traits.style.keyword := by
    cases kind <;> decide
  simp [ofOutput, projection_notin, keyword_ne]

theorem default_notin_ofCondition (pairs : List Pairing) :
    .word "DEFAULT" ∉ ofCondition pairs := by
  simp [ofCondition, default_notin_ofPairs]

theorem default_notin_ofTarget (path : List String) (values : List Pairing) :
    .word "DEFAULT" ∉ ofTarget path values := by
  unfold ofTarget
  split <;> simp [default_notin_ofPath, default_notin_ofColumns]

theorem default_notin_ofValues {values : List Pairing} (values_ne : values ≠ []) :
    .word "DEFAULT" ∉ ofValues values := by
  simp [ofValues, values_ne, default_notin_ofParameters]

end Sql.Token

/-- The words for a row of defaults stand among the tokens of a command exactly if the command binds
nothing. -/
theorem Command.default_values_infix_iff (kind : DialectKind) {command : Command}
    (wellFormed : command.WellFormed) :
    [.word "DEFAULT", .word "VALUES"] <:+: command.tokens kind ↔ command.bound = [] := by
  constructor
  · intro occurs
    have member : .word "DEFAULT" ∈ command.tokens kind := occurs.subset List.mem_cons_self
    by_contra bound_ne
    cases command with
    | insert path values projection =>
        have values_notin : .word "DEFAULT" ∉ ofValues values := default_notin_ofValues bound_ne
        cases style : kind.traits.style <;>
          simp [Command.tokens, style, default_notin_ofTarget, default_notin_ofOutput,
            values_notin] at member
    | update path assigned keys projection =>
        cases style : kind.traits.style <;>
          simp [Command.tokens, style, default_notin_ofPath, default_notin_ofPairs,
            default_notin_ofCondition, default_notin_ofOutput] at member
    | delete path matched =>
        simp [Command.tokens, default_notin_ofPath, default_notin_ofCondition] at member
    | select path projection keys =>
        simp [Command.tokens, default_notin_ofPath, default_notin_ofSelection,
          default_notin_ofCondition] at member
  · intro bound_eq
    cases command with
    | insert path values projection =>
        obtain rfl : values = [] := bound_eq
        cases style : kind.traits.style with
        | returning =>
            refine ⟨[.word "INSERT", .word "INTO"] ++ ofPath path, ofOutput kind projection, ?_⟩
            simp [Command.tokens, style, ofTarget, ofValues]
        | output =>
            refine ⟨[.word "INSERT", .word "INTO"] ++ ofPath path ++ ofOutput kind projection, [], ?_⟩
            simp [Command.tokens, style, ofTarget, ofValues]
    | update path assigned keys projection =>
        exact absurd (List.append_eq_nil_iff.mp bound_eq).1 wellFormed.2.1
    | delete path matched => exact absurd bound_eq wellFormed.2.1
    | select path projection keys => exact absurd bound_eq wellFormed.2.2.1

end RowMapping
