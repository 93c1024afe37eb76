/-!
# Delimited identifiers

An identifier is quoted by writing it between an opening and a closing delimiter. Inside, every
occurrence of the closing delimiter, found from left to right without overlaps, is written twice.
-/

namespace RowMapping

/-- The two delimiters of a quoted identifier. -/
structure Delimiters where
  /-- What stands before the identifier. -/
  opening : String
  /-- What stands after it. -/
  closing : String
  deriving DecidableEq, Repr

namespace Delimiters

/-- Write every occurrence of `mark` twice. The first `skip` letters belong to an occurrence that
has been doubled already. An empty mark occurs nowhere. -/
def double (mark : List Char) : (skip : Nat) → List Char → List Char
  | _, [] => []
  | skip + 1, letter :: rest => letter :: double mark skip rest
  | 0, letter :: rest =>
      if !mark.isEmpty && mark.isPrefixOf (letter :: rest) then
        mark ++ letter :: double mark (mark.length - 1) rest
      else letter :: double mark 0 rest

def quote (delimiters : Delimiters) (identifier : String) : String :=
  delimiters.opening ++
    String.ofList (double delimiters.closing.toList 0 identifier.toList) ++ delimiters.closing

end Delimiters

end RowMapping
