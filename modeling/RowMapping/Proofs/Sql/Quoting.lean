import RowMapping.Sql.Token

/-!
# Quoted identifiers

The scanner of quoted identifiers undoes the quoting of the built-in dialects. An identifier may
hold any number of delimiters anywhere; all that matters is that no further closing delimiter
follows the quotation.
-/

namespace RowMapping

namespace Delimiters

theorem double_singleton_self (mark : Char) (rest : List Char) :
    double [mark] 0 (mark :: rest) = mark :: mark :: double [mark] 0 rest := by
  simp [double]

theorem double_singleton_of_ne {mark letter : Char} (letter_ne : letter ≠ mark)
    (rest : List Char) :
    double [mark] 0 (letter :: rest) = letter :: double [mark] 0 rest := by
  have differs : mark ≠ letter := Ne.symm letter_ne
  simp [double, differs]

end Delimiters

namespace Sql.Token

open Delimiters

theorem scanQuoted?_closing {closing : Char} {rest : List Char}
    (rest_head : rest.head? ≠ some closing) :
    scanQuoted? closing (closing :: rest) = some ([], rest) := by
  cases rest with
  | nil => simp [scanQuoted?]
  | cons next rest =>
      have next_ne : next ≠ closing := by simpa using rest_head
      simp [scanQuoted?, next_ne]

theorem scanQuoted?_doubled (closing : Char) (rest : List Char) :
    scanQuoted? closing (closing :: closing :: rest) =
      (scanQuoted? closing rest).map fun (name, rest) => (closing :: name, rest) := by
  simp [scanQuoted?]

theorem scanQuoted?_of_ne {closing letter : Char} (letter_ne : letter ≠ closing)
    (rest : List Char) :
    scanQuoted? closing (letter :: rest) =
      (scanQuoted? closing rest).map fun (name, rest) => (letter :: name, rest) := by
  cases rest with
  | nil => simp [scanQuoted?, letter_ne]
  | cons next rest => rw [scanQuoted?, if_neg letter_ne]

/-- Scanning a quotation gives the identifier and stops right behind the closing delimiter. -/
theorem scanQuoted?_double (closing : Char) (letters : List Char) {rest : List Char}
    (rest_head : rest.head? ≠ some closing) :
    scanQuoted? closing (double [closing] 0 letters ++ closing :: rest) = some (letters, rest) := by
  induction letters with
  | nil => exact scanQuoted?_closing rest_head
  | cons letter letters ih =>
      by_cases letter_eq : letter = closing
      · subst letter
        rw [double_singleton_self, List.cons_append, List.cons_append, scanQuoted?_doubled, ih]
        rfl
      · rw [double_singleton_of_ne letter_eq, List.cons_append, scanQuoted?_of_ne letter_eq, ih]
        rfl

theorem toList_quote (kind : DialectKind) (name : String) :
    (kind.delimiters.quote name).toList =
      openingMark kind :: (double [closingMark kind] 0 name.toList ++ [closingMark kind]) := by
  cases kind <;> simp [quote, DialectKind.delimiters, openingMark, closingMark]

theorem traits_quote (kind : DialectKind) : kind.traits.quote = kind.delimiters.quote := by
  cases kind <;> rfl

end Sql.Token

end RowMapping
