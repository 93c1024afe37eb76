import Mathlib.Data.List.Forall2
import RowMapping.Proofs.Sql.Quoting
import RowMapping.TableMapping

/-!
# How tokens are spelled

A text spells tokens if reading it gives exactly these, whatever follows, as long as what follows
does not continue the last of them. Spelled texts are put together with separators, and every
separator that statements use starts with a letter that continues no token.
-/

namespace RowMapping.Sql.Token

/-! ## The first token of a text -/

@[simp]
theorem ofChars?_nil (kind : DialectKind) : ofChars? kind [] = some [] := by
  rw [ofChars?]

theorem ofChars?_space (kind : DialectKind) (rest : List Char) :
    ofChars? kind (' ' :: rest) = ofChars? kind rest := by
  rw [ofChars?, if_pos rfl]

theorem ofChars?_of_scan? {kind : DialectKind} {letter : Char} {letters rest : List Char}
    {token : Token} (letter_ne : letter ≠ ' ')
    (scanned : scan? kind letter letters = some (token, rest)) :
    ofChars? kind (letter :: letters) = (ofChars? kind rest).map (token :: ·) := by
  rw [ofChars?, if_neg letter_ne]
  split
  · rename_i missed
    rw [scanned] at missed
    cases missed
  · rename_i found left foundScan
    rw [scanned] at foundScan
    obtain ⟨rfl, rfl⟩ := Prod.mk.inj (Option.some.inj foundScan)
    rfl

/-- The letters that stand behind an identifier, a parameter or a word. -/
def endsToken (letter : Char) : Bool := [' ', ',', '.', ')'].contains letter

theorem ends_cases {letter : Char} (ends : endsToken letter = true) :
    letter = ' ' ∨ letter = ',' ∨ letter = '.' ∨ letter = ')' := by
  simpa [endsToken] using ends

/-- What may follow a token: nothing, or a letter that does not continue it. -/
def Boundary (rest : List Char) : Prop := ∀ letter ∈ rest.head?, endsToken letter = true

theorem Boundary.nil : Boundary [] := by
  simp [Boundary]

theorem Boundary.cons {letter : Char} (ends : endsToken letter = true) (rest : List Char) :
    Boundary (letter :: rest) := by
  simpa [Boundary] using ends

theorem Boundary.append {front : List Char} (boundary : Boundary front) (front_ne : front ≠ [])
    (rest : List Char) : Boundary (front ++ rest) := by
  cases front with
  | nil => exact absurd rfl front_ne
  | cons letter front => exact .cons (boundary letter rfl) _

theorem Boundary.head?_ne_closing {rest : List Char} (boundary : Boundary rest)
    (kind : DialectKind) : rest.head? ≠ some (closingMark kind) := by
  intro head_eq
  have ends := boundary (closingMark kind) head_eq
  cases kind <;> exact absurd ends (by decide)

theorem span_of_boundary {holds : Char → Bool} {letters rest : List Char}
    (letters_hold : letters.all holds = true) (boundary : Boundary rest)
    (ends_excluded : ∀ letter, endsToken letter = true → holds letter = false) :
    (letters ++ rest).takeWhile holds = letters ∧ (letters ++ rest).dropWhile holds = rest := by
  have each : ∀ letter ∈ letters, holds letter = true := List.all_eq_true.mp letters_hold
  have stops : rest.takeWhile holds = [] ∧ rest.dropWhile holds = rest := by
    cases rest with
    | nil => simp
    | cons letter rest =>
        have excluded : holds letter = false := ends_excluded letter (boundary letter rfl)
        simp [excluded]
  rw [List.takeWhile_append_of_pos each, List.dropWhile_append_of_pos each]
  simp [stops]

/-! ## Texts that spell tokens -/

/-- The text reads as the tokens, in front of anything that continues none of them. -/
def Spells (kind : DialectKind) (text : String) (tokens : List Token) : Prop :=
  ∀ rest, Boundary rest →
    ofChars? kind (text.toList ++ rest) = (ofChars? kind rest).map (tokens ++ ·)

theorem Spells.ofText? {kind : DialectKind} {text : String} {tokens : List Token}
    (spelled : Spells kind text tokens) : ofText? kind text = some tokens := by
  have read := spelled [] .nil
  simpa [Token.ofText?] using read

theorem spells_quote (kind : DialectKind) (name : String) :
    Spells kind (kind.traits.quote name) [.identifier name] := by
  intro rest boundary
  rw [traits_quote, toList_quote, List.cons_append, List.append_assoc, List.singleton_append]
  have opening_ne : openingMark kind ≠ ' ' := by
    cases kind <;> decide
  refine ofChars?_of_scan? opening_ne ?_
  unfold scan?
  rw [if_pos rfl, scanQuoted?_double _ _ (boundary.head?_ne_closing kind)]
  simp

theorem isParameterName_cases {name : String} (valid : isParameterName name = true) :
    ∃ first rest, name.toList = first :: rest ∧ startsName first = true ∧
      rest.all continuesName = true := by
  unfold isParameterName at valid
  split at valid
  · cases valid
  · rename_i first rest letters
    rw [Bool.and_eq_true] at valid
    exact ⟨first, rest, letters, valid.1, valid.2⟩

theorem spells_parameterName (kind : DialectKind) {name : String}
    (valid : isParameterName name = true) :
    Spells kind (parameterName name) [.parameter name] := by
  intro rest boundary
  obtain ⟨first, others, letters, starts, continues⟩ := isParameterName_cases valid
  have excluded : ∀ letter, endsToken letter = true → continuesName letter = false := by
    intro letter ends
    rcases ends_cases ends with rfl | rfl | rfl | rfl <;> decide
  obtain ⟨taken, dropped⟩ := span_of_boundary continues boundary excluded
  have spelling : (parameterName name).toList ++ rest = '@' :: first :: (others ++ rest) := by
    simp [parameterName, letters]
  have sigil_ne : '@' ≠ openingMark kind := by
    cases kind <;> decide
  rw [spelling]
  refine ofChars?_of_scan? (by decide) ?_
  unfold scan?
  rw [if_neg sigil_ne, if_pos rfl, scanName?, if_pos starts, taken, dropped, ← letters]
  simp

/-- Whether a text is a word: ASCII letters, at least one. -/
def isWord (text : String) : Bool := !text.toList.isEmpty && text.toList.all Char.isAlpha

theorem spells_word (kind : DialectKind) (word : String) (valid : isWord word = true) :
    Spells kind word [.word word] := by
  intro rest boundary
  have excluded : ∀ letter, endsToken letter = true → letter.isAlpha = false := by
    intro letter ends
    rcases ends_cases ends with rfl | rfl | rfl | rfl <;> decide
  unfold isWord at valid
  cases spelling : word.toList with
  | nil =>
      rw [spelling] at valid
      cases valid
  | cons first others =>
      rw [spelling, List.all_cons, Bool.and_eq_true, Bool.and_eq_true] at valid
      obtain ⟨-, firstLetter, letters⟩ := valid
      obtain ⟨taken, dropped⟩ := span_of_boundary letters boundary excluded
      have first_ne : ∀ mark : Char, mark.isAlpha = false → first ≠ mark := by
        rintro mark excludes rfl
        rw [firstLetter] at excludes
        cases excludes
      have opening_excluded : (openingMark kind).isAlpha = false := by
        cases kind <;> decide
      rw [List.cons_append]
      refine ofChars?_of_scan? (first_ne ' ' (by decide)) ?_
      unfold scan?
      rw [if_neg (first_ne _ opening_excluded), if_neg (first_ne '@' (by decide)), if_pos firstLetter,
        taken, dropped, ← spelling, String.ofList_toList]

theorem spells_openParenthesis {kind : DialectKind} {text : String} {tokens : List Token}
    (spelled : Spells kind text tokens) :
    Spells kind ("(" ++ text ++ ")") (.openParenthesis :: tokens ++ [.closeParenthesis]) := by
  intro rest _
  have spelling : ("(" ++ text ++ ")").toList ++ rest = '(' :: (text.toList ++ ')' :: rest) := by
    simp
  have opened : scan? kind '(' (text.toList ++ ')' :: rest) =
      some (.openParenthesis, text.toList ++ ')' :: rest) := by
    cases kind <;> simp [scan?, openingMark]
  have closed : scan? kind ')' rest = some (.closeParenthesis, rest) := by
    cases kind <;> simp [scan?, openingMark]
  rw [spelling, ofChars?_of_scan? (by decide) opened, spelled _ (.cons (by decide) _),
    ofChars?_of_scan? (by decide) closed]
  cases ofChars? kind rest <;> simp

/-! ## Separators -/

/-- The text ends the token before it and reads as the tokens, whatever follows. -/
structure Separates (kind : DialectKind) (text : String) (tokens : List Token) : Prop where
  /-- The text is not empty. -/
  text_ne : text.toList ≠ []
  /-- It continues no token. -/
  boundary : Boundary text.toList
  /-- It reads as the tokens. -/
  read : ∀ rest,
    ofChars? kind (text.toList ++ rest) = (ofChars? kind rest).map (tokens ++ ·)

theorem separates_space (kind : DialectKind) : Separates kind " " [] where
  text_ne := by decide
  boundary := .cons (by decide) _
  read rest := by
    change ofChars? kind (' ' :: rest) = _
    rw [ofChars?_space]
    simp

theorem separates_point (kind : DialectKind) : Separates kind "." [.point] where
  text_ne := by decide
  boundary := .cons (by decide) _
  read rest := by
    have scanned : scan? kind '.' rest = some (.point, rest) := by
      cases kind <;> simp [scan?, openingMark]
    exact ofChars?_of_scan? (by decide) scanned

theorem separates_comma (kind : DialectKind) : Separates kind ", " [.comma] where
  text_ne := by decide
  boundary := .cons (by decide) _
  read rest := by
    have scanned : scan? kind ',' (' ' :: rest) = some (.comma, ' ' :: rest) := by
      cases kind <;> simp [scan?, openingMark]
    change ofChars? kind (',' :: ' ' :: rest) = _
    rw [ofChars?_of_scan? (by decide) scanned, ofChars?_space]
    rfl

theorem separates_equals (kind : DialectKind) : Separates kind " = " [.equals] where
  text_ne := by decide
  boundary := .cons (by decide) _
  read rest := by
    have scanned : scan? kind '=' (' ' :: rest) = some (.equals, ' ' :: rest) := by
      cases kind <;> simp [scan?, openingMark]
    change ofChars? kind (' ' :: '=' :: ' ' :: rest) = _
    rw [ofChars?_space, ofChars?_of_scan? (by decide) scanned, ofChars?_space]
    rfl

theorem separates_word (kind : DialectKind) (word : String) (valid : isWord word = true) :
    Separates kind (" " ++ word ++ " ") [.word word] where
  text_ne := by simp
  boundary := by
    rw [String.toList_append, String.toList_append]
    exact .cons (by decide) _
  read rest := by
    have spelling : (" " ++ word ++ " ").toList ++ rest = ' ' :: (word.toList ++ ' ' :: rest) := by
      simp
    rw [spelling, ofChars?_space, spells_word kind word valid _ (.cons (by decide) _),
      ofChars?_space]

theorem Spells.separated {kind : DialectKind} {left right separator : String}
    {leftTokens rightTokens between : List Token} (leftSpelled : Spells kind left leftTokens)
    (separates : Separates kind separator between) (rightSpelled : Spells kind right rightTokens) :
    Spells kind (left ++ separator ++ right) (leftTokens ++ between ++ rightTokens) := by
  intro rest boundary
  rw [String.toList_append, String.toList_append, List.append_assoc, List.append_assoc,
    leftSpelled _ (separates.boundary.append separates.text_ne _), separates.read,
    rightSpelled rest boundary]
  cases ofChars? kind rest <;> simp

theorem Spells.spaced {kind : DialectKind} {left right : String}
    {leftTokens rightTokens : List Token} (leftSpelled : Spells kind left leftTokens)
    (rightSpelled : Spells kind right rightTokens) :
    Spells kind (left ++ " " ++ right) (leftTokens ++ rightTokens) := by
  simpa using leftSpelled.separated (separates_space kind) rightSpelled

/-- Spelled texts with single spaces between them spell their tokens one after the other. -/
theorem spells_sentence {kind : DialectKind} {texts : List String} {tokens : List (List Token)}
    (spelled : List.Forall₂ (Spells kind) texts tokens) (texts_ne : texts ≠ []) :
    Spells kind (" ".intercalate texts) tokens.flatten := by
  induction spelled with
  | nil => exact absurd rfl texts_ne
  | @cons text first texts others textSpelled othersSpelled ih =>
      cases othersSpelled with
      | nil => simpa using textSpelled
      | cons nextSpelled restSpelled =>
          rw [String.intercalate_cons_cons, List.flatten_cons]
          exact textSpelled.spaced (ih (List.cons_ne_nil _ _))

/-- Any number of spelled texts with a separator between each two of them. -/
theorem spells_intercalate {kind : DialectKind} {separator : String} {between : List Token}
    (separates : Separates kind separator between) {α : Type} {text : α → String}
    {tokens : α → List Token} {items : List α} (items_ne : items ≠ [])
    (spelled : ∀ item ∈ items, Spells kind (text item) (tokens item)) :
    Spells kind (separator.intercalate (items.map text)) (between.intercalate (items.map tokens)) :=
  by
  induction items with
  | nil => exact absurd rfl items_ne
  | cons item items ih =>
      have itemSpelled := spelled item List.mem_cons_self
      cases items with
      | nil => simpa using itemSpelled
      | cons next items =>
          have restSpelled := ih (by simp) fun other member =>
            spelled other (List.mem_cons_of_mem item member)
          simpa [String.intercalate_cons_cons, List.intercalate_cons_cons] using
            itemSpelled.separated separates restSpelled

end RowMapping.Sql.Token
