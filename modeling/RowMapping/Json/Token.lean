import RowMapping.Json.Numeral
import RowMapping.Json.Quoted

/-!
# Tokens of documents

The words of a document's text: six marks, three literal words, strings and numerals. `ofChars?`
cuts a text into its tokens and skips the blanks between them; `chars` writes one token.
-/

namespace RowMapping.Json

/-- A token. A string whose surrogate units do not come in pairs has no content. -/
inductive Token where
  | openBrace
  | closeBrace
  | openBracket
  | closeBracket
  | comma
  | colon
  | null
  | truth (value : Bool)
  | string (content : Option String)
  | number (numeral : Numeral)
  deriving DecidableEq, Repr

namespace Token

/-- The token in full. -/
def chars : Token → List Char
  | openBrace => ['{']
  | closeBrace => ['}']
  | openBracket => ['[']
  | closeBracket => [']']
  | comma => [',']
  | colon => [':']
  | null => ['n', 'u', 'l', 'l']
  | truth true => ['t', 'r', 'u', 'e']
  | truth false => ['f', 'a', 'l', 's', 'e']
  | string content => Quoted.write (content.getD "").toList
  | number numeral => numeral.chars

/-- The blanks allowed between tokens. -/
def isSpace (letter : Char) : Bool :=
  letter == ' ' || letter == '\t' || letter == '\n' || letter == '\r'

/-- The token at the start of a text, and what follows it. -/
def scan? : List Char → Option (Token × List Char)
  | '{' :: rest => some (openBrace, rest)
  | '}' :: rest => some (closeBrace, rest)
  | '[' :: rest => some (openBracket, rest)
  | ']' :: rest => some (closeBracket, rest)
  | ',' :: rest => some (comma, rest)
  | ':' :: rest => some (colon, rest)
  | 'n' :: 'u' :: 'l' :: 'l' :: rest => some (null, rest)
  | 't' :: 'r' :: 'u' :: 'e' :: rest => some (truth true, rest)
  | 'f' :: 'a' :: 'l' :: 's' :: 'e' :: rest => some (truth false, rest)
  | '"' :: rest =>
      (Quoted.scan? rest).map fun (pieces, rest) =>
        (string ((Quoted.decode? pieces).map String.ofList), rest)
  | letters => (Numeral.ofChars? letters).map fun (numeral, rest) => (number numeral, rest)

theorem length_scan? {letters rest : List Char} {token : Token}
    (read : scan? letters = some (token, rest)) : rest.length < letters.length := by
  unfold scan? at read
  split at read
  case h_10 =>
    obtain ⟨⟨pieces, left⟩, scanned, pair⟩ := Option.map_eq_some_iff.mp read
    obtain ⟨-, rfl⟩ := Prod.mk.inj pair
    have shorter := Quoted.length_scan? scanned
    simp only [List.length_cons]
    omega
  case h_11 =>
    obtain ⟨⟨numeral, left⟩, scanned, pair⟩ := Option.map_eq_some_iff.mp read
    obtain ⟨-, rfl⟩ := Prod.mk.inj pair
    exact Numeral.length_ofChars? scanned
  all_goals
    simp only [Option.some.injEq, Prod.mk.injEq] at read
    obtain ⟨-, rfl⟩ := read
    simp only [List.length_cons]
    omega

def ofChars? : List Char → Option (List Token)
  | [] => some []
  | letter :: letters =>
      if isSpace letter then ofChars? letters
      else
        match _found : scan? (letter :: letters) with
        | none => none
        | some (token, rest) => (ofChars? rest).map (token :: ·)
  termination_by letters => letters.length
  decreasing_by
    · simp
    · exact length_scan? (by assumption)

end Token

end RowMapping.Json
