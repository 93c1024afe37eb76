import RowMapping.Text.Invisible

/-!
# Quoted texts

A text between quotation marks, as descriptions show it: the quotation mark and the backslash stand
behind a backslash, and a character that does not show by itself is named by its code point.
-/

namespace RowMapping.Text

/-- One character inside a quoted text. -/
def quotedLetter (character : Char) : List Char :=
  match character with
  | '"' => ['\\', '"']
  | '\\' => ['\\', '\\']
  | '\n' => ['\\', 'n']
  | '\r' => ['\\', 'r']
  | '\t' => ['\\', 't']
  | '\x00' => ['\\', '0']
  | other =>
      if isInvisible other then
        ['\\', 'u', '\x7b'] ++ Nat.toDigits 16 other.toNat ++ ['\x7d']
      else [other]

/-- A text between quotation marks. -/
def quoted (text : String) : String :=
  String.ofList ('"' :: text.toList.flatMap quotedLetter ++ ['"'])

end RowMapping.Text
