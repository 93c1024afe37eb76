import RowMapping.Sql.Dialect

/-!
# Tokens of statements

The lexical rule of a built-in dialect. A quoted identifier starts with the opening delimiter and
ends at the first closing delimiter that is not doubled; a doubled one stands for itself. A
parameter is the sigil followed by a name of ASCII letters, digits and underscores that starts with
no digit. Words are runs of ASCII letters, and five marks stand for themselves. Spaces separate
tokens.
-/

namespace RowMapping.Sql

inductive Token where
  /-- A quoted identifier, without its quotes. -/
  | identifier (name : String)
  /-- A parameter, without its sigil. -/
  | parameter (name : String)
  /-- A word of the language. -/
  | word (letters : String)
  | openParenthesis
  | closeParenthesis
  | comma
  | point
  | equals
  deriving DecidableEq, Repr

namespace Token

/-- The delimiter in front of a quoted identifier. -/
def openingMark : DialectKind → Char
  | .postgres | .sqlite => '"'
  | .sqlServer => '['

/-- The delimiter behind a quoted identifier. -/
def closingMark : DialectKind → Char
  | .postgres | .sqlite => '"'
  | .sqlServer => ']'

/-- The identifier up to the first closing delimiter that is not doubled, and what follows it. -/
def scanQuoted? (closing : Char) : List Char → Option (List Char × List Char)
  | [] => none
  | [letter] => if letter = closing then some ([], []) else none
  | letter :: next :: rest =>
      if letter = closing then
        if next = closing then
          (scanQuoted? closing rest).map fun (name, rest) => (letter :: name, rest)
        else some ([], next :: rest)
      else (scanQuoted? closing (next :: rest)).map fun (name, rest) => (letter :: name, rest)

/-- Whether a letter can start the name of a parameter. -/
def startsName (letter : Char) : Bool := letter.isAlpha || letter == '_'

/-- Whether a letter can go on with the name of a parameter. -/
def continuesName (letter : Char) : Bool := letter.isAlphanum || letter == '_'

/-- The name of a parameter, and what follows it. -/
def scanName? : List Char → Option (List Char × List Char)
  | [] => none
  | letter :: rest =>
      if startsName letter then
        some (letter :: rest.takeWhile continuesName, rest.dropWhile continuesName)
      else none

/-- The token at the start of a text that starts with the given letter, and what follows it. -/
def scan? (kind : DialectKind) (letter : Char) (rest : List Char) : Option (Token × List Char) :=
  if letter = openingMark kind then
    (scanQuoted? (closingMark kind) rest).map fun (name, rest) =>
      (identifier (String.ofList name), rest)
  else if letter = '@' then
    (scanName? rest).map fun (name, rest) => (parameter (String.ofList name), rest)
  else if letter.isAlpha then
    some (word (String.ofList (letter :: rest.takeWhile Char.isAlpha)), rest.dropWhile Char.isAlpha)
  else
    match letter with
    | '(' => some (openParenthesis, rest)
    | ')' => some (closeParenthesis, rest)
    | ',' => some (comma, rest)
    | '.' => some (point, rest)
    | '=' => some (equals, rest)
    | _ => none

theorem length_dropWhile_le {α : Type} (holds : α → Bool) (items : List α) :
    (items.dropWhile holds).length ≤ items.length := by
  induction items with
  | nil => simp
  | cons item items induction =>
      by_cases here : holds item
      · simp only [List.dropWhile_cons, here, if_true, List.length_cons]
        omega
      · simp [here]

theorem length_scanQuoted? {closing : Char} {letters name rest : List Char}
    (read : scanQuoted? closing letters = some (name, rest)) : rest.length ≤ letters.length := by
  fun_induction scanQuoted? closing letters generalizing name rest with
  | case1 => simp at read
  | case2 =>
      simp only [Option.some.injEq, Prod.mk.injEq] at read
      simp [← read.2]
  | case3 => simp at read
  | case4 tail induction =>
      obtain ⟨⟨scanned, left⟩, tailRead, pair⟩ := Option.map_eq_some_iff.mp read
      obtain ⟨-, rfl⟩ := Prod.mk.inj pair
      have shorter := induction tailRead
      simp only [List.length_cons]
      omega
  | case5 =>
      simp only [Option.some.injEq, Prod.mk.injEq] at read
      simp [← read.2]
  | case6 letter next tail _ induction =>
      obtain ⟨⟨scanned, left⟩, tailRead, pair⟩ := Option.map_eq_some_iff.mp read
      obtain ⟨-, rfl⟩ := Prod.mk.inj pair
      have shorter := induction tailRead
      simp only [List.length_cons] at shorter ⊢
      omega

theorem length_scanName? {letters name rest : List Char}
    (read : scanName? letters = some (name, rest)) : rest.length ≤ letters.length := by
  unfold scanName? at read
  split at read
  · simp at read
  · split at read
    · simp only [Option.some.injEq, Prod.mk.injEq] at read
      rw [← read.2]
      have shorter := length_dropWhile_le continuesName
      simp only [List.length_cons]
      exact Nat.le_succ_of_le (shorter _)
    · simp at read

theorem length_scan? {kind : DialectKind} {letter : Char} {letters rest : List Char}
    {token : Token} (read : scan? kind letter letters = some (token, rest)) :
    rest.length ≤ letters.length := by
  unfold scan? at read
  split at read
  · obtain ⟨⟨name, left⟩, scanned, pair⟩ := Option.map_eq_some_iff.mp read
    obtain ⟨-, rfl⟩ := Prod.mk.inj pair
    exact length_scanQuoted? scanned
  · split at read
    · obtain ⟨⟨name, left⟩, scanned, pair⟩ := Option.map_eq_some_iff.mp read
      obtain ⟨-, rfl⟩ := Prod.mk.inj pair
      exact length_scanName? scanned
    · split at read
      · simp only [Option.some.injEq, Prod.mk.injEq] at read
        rw [← read.2]
        exact length_dropWhile_le _ _
      · split at read
        all_goals
          simp only [Option.some.injEq, Prod.mk.injEq, reduceCtorEq] at read
        all_goals
          obtain ⟨-, rfl⟩ := read
          exact Nat.le_refl _

def ofChars? (kind : DialectKind) : List Char → Option (List Token)
  | [] => some []
  | letter :: letters =>
      if letter = ' ' then ofChars? kind letters
      else
        match _found : scan? kind letter letters with
        | none => none
        | some (token, rest) => (ofChars? kind rest).map (token :: ·)
  termination_by letters => letters.length
  decreasing_by
    · simp
    · exact Nat.lt_succ_of_le (length_scan? (by assumption))

def ofText? (kind : DialectKind) (text : String) : Option (List Token) :=
  ofChars? kind text.toList

/-- The names of the parameters among tokens, in order. -/
def parameters (tokens : List Token) : List String :=
  tokens.filterMap fun
    | parameter name => some name
    | _ => none

end Token

end RowMapping.Sql
