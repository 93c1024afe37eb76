import RowMapping.Sql.Command
import RowMapping.Sql.Token

/-!
# Reading commands

The grammar of the statements that the library writes, as a reader of their tokens.
`Command.ofText?` takes a text back to the command it was written from.
-/

namespace RowMapping

namespace Sql.Reader

/-! Each reader takes something from the front of the tokens and leaves the rest. -/

/-- A path: identifiers with points between them. -/
def path? : List Token → Option (List String × List Token)
  | .identifier name :: .point :: rest =>
      (path? rest).map fun (names, rest) => (name :: names, rest)
  | .identifier name :: rest => some ([name], rest)
  | _ => none

/-- Columns with commas between them, up to the closing parenthesis. -/
def columns? : List Token → Option (List String × List Token)
  | .identifier name :: .comma :: rest =>
      (columns? rest).map fun (names, rest) => (name :: names, rest)
  | .identifier name :: .closeParenthesis :: rest => some ([name], rest)
  | _ => none

/-- Parameters with commas between them, up to the closing parenthesis. -/
def parameters? : List Token → Option (List String × List Token)
  | .parameter name :: .comma :: rest =>
      (parameters? rest).map fun (names, rest) => (name :: names, rest)
  | .parameter name :: .closeParenthesis :: rest => some ([name], rest)
  | _ => none

/-- Columns set equal to their parameters, with the separator between them. -/
def pairs? (separator : Token) : List Token → Option (List Pairing × List Token)
  | .identifier column :: .equals :: .parameter name :: next :: rest =>
      if next = separator then
        (pairs? separator rest).map fun (pairs, rest) => (⟨column, name⟩ :: pairs, rest)
      else some ([⟨column, name⟩], next :: rest)
  | [.identifier column, .equals, .parameter name] => some ([⟨column, name⟩], [])
  | _ => none

/-- Columns under their aliases, with commas between them. -/
def selection? : List Token → Option (List Pairing × List Token)
  | .identifier column :: .word "AS" :: .identifier name :: .comma :: rest =>
      (selection? rest).map fun (pairs, rest) => (⟨column, name⟩ :: pairs, rest)
  | .identifier column :: .word "AS" :: .identifier name :: rest =>
      some ([⟨column, name⟩], rest)
  | _ => none

/-- Columns of the inserted row under their aliases, with commas between them. -/
def inserted? : List Token → Option (List Pairing × List Token)
  | .word "INSERTED" :: .point :: .identifier column :: .word "AS" :: .identifier name ::
      .comma :: rest =>
      (inserted? rest).map fun (pairs, rest) => (⟨column, name⟩ :: pairs, rest)
  | .word "INSERTED" :: .point :: .identifier column :: .word "AS" :: .identifier name :: rest =>
      some ([⟨column, name⟩], rest)
  | _ => none

/-- The request for the affected row, as a dialect writes it. -/
def output? (kind : DialectKind) : List Token → Option (List Pairing × List Token)
  | .word "RETURNING" :: rest => if kind = .sqlServer then none else selection? rest
  | .word "OUTPUT" :: rest => if kind = .sqlServer then inserted? rest else none
  | _ => none

/-- The condition that pairs match. -/
def condition? : List Token → Option (List Pairing × List Token)
  | .word "WHERE" :: rest => pairs? (.word "AND") rest
  | _ => none

/-- The columns of an insertion, if there are any. -/
def insertColumns? : List Token → Option (List String × List Token)
  | .openParenthesis :: rest => columns? rest
  | rest => some ([], rest)

/-- The values of an insertion; default values are no parameters. -/
def insertValues? : List Token → Option (List String × List Token)
  | .word "DEFAULT" :: .word "VALUES" :: rest => some ([], rest)
  | .word "VALUES" :: .openParenthesis :: rest => parameters? rest
  | _ => none

/-- Columns with their parameters, if there are as many of the one as of the other. -/
def pairings? (columns names : List String) : Option (List Pairing) :=
  if columns.length = names.length then some (List.zipWith Pairing.mk columns names) else none

/-- An insertion, after its first two words. -/
def insert? (kind : DialectKind) (tokens : List Token) : Option (Command × List Token) := do
  let (path, rest) ← path? tokens
  let (columns, rest) ← insertColumns? rest
  match kind with
  | .sqlServer =>
      let (projection, rest) ← output? kind rest
      let (names, rest) ← insertValues? rest
      return (.insert path (← pairings? columns names) projection, rest)
  | _ =>
      let (names, rest) ← insertValues? rest
      let (projection, rest) ← output? kind rest
      return (.insert path (← pairings? columns names) projection, rest)

/-- An update, after its first word. -/
def update? (kind : DialectKind) (tokens : List Token) : Option (Command × List Token) := do
  let (path, rest) ← path? tokens
  match rest with
  | .word "SET" :: rest =>
      let (assigned, rest) ← pairs? .comma rest
      match kind with
      | .sqlServer =>
          let (projection, rest) ← output? kind rest
          let (keys, rest) ← condition? rest
          return (.update path assigned keys projection, rest)
      | _ =>
          let (keys, rest) ← condition? rest
          let (projection, rest) ← output? kind rest
          return (.update path assigned keys projection, rest)
  | _ => none

/-- A deletion, after its first two words. -/
def delete? (tokens : List Token) : Option (Command × List Token) := do
  let (path, rest) ← path? tokens
  let (matched, rest) ← condition? rest
  return (.delete path matched, rest)

/-- A selection, after its first word. -/
def select? (tokens : List Token) : Option (Command × List Token) := do
  let (projection, rest) ← selection? tokens
  match rest with
  | .word "FROM" :: rest =>
      let (path, rest) ← path? rest
      let (keys, rest) ← condition? rest
      return (.select path projection keys, rest)
  | _ => none

/-- A command. -/
def command? (kind : DialectKind) : List Token → Option (Command × List Token)
  | .word "INSERT" :: .word "INTO" :: rest => insert? kind rest
  | .word "UPDATE" :: rest => update? kind rest
  | .word "DELETE" :: .word "FROM" :: rest => delete? rest
  | .word "SELECT" :: rest => select? rest
  | _ => none

end Sql.Reader

/-- The command that a text spells in a built-in dialect, if it spells one and nothing else. -/
def Command.ofText? (kind : DialectKind) (text : String) : Option Command :=
  match (Sql.Token.ofText? kind text).bind (Sql.Reader.command? kind) with
  | some (command, []) => some command
  | _ => none

end RowMapping
