/-!
# Blank characters

The characters with the Unicode property `White_Space`, and the removal of a text's blank ends.
-/

namespace RowMapping.Text

/-- The code points with the property `White_Space`. -/
def blankCodes : List Nat :=
  [0x09, 0x0A, 0x0B, 0x0C, 0x0D, 0x20, 0x85, 0xA0, 0x1680,
   0x2000, 0x2001, 0x2002, 0x2003, 0x2004, 0x2005, 0x2006, 0x2007, 0x2008, 0x2009, 0x200A,
   0x2028, 0x2029, 0x202F, 0x205F, 0x3000]

def isBlank (character : Char) : Bool := blankCodes.contains character.toNat

/-- Whether a text holds nothing but white space. -/
def isBlankText (text : String) : Bool := text.toList.all isBlank

/-- The text without the white space at its two ends. -/
def trim (text : String) : String :=
  String.ofList ((text.toList.dropWhile isBlank).reverse.dropWhile isBlank).reverse

theorem trim_eq_empty_iff (text : String) : trim text = "" ↔ isBlankText text := by
  have dropped : ∀ letters : List Char,
      letters.dropWhile isBlank = [] ↔ letters.all isBlank = true := by
    intro letters
    induction letters with
    | nil => simp
    | cons letter rest induction => by_cases blank : isBlank letter <;> simp [blank, induction]
  rw [← String.toList_inj]
  simp only [trim, isBlankText, String.toList_ofList, String.toList_empty, List.reverse_eq_nil_iff]
  rw [dropped, List.all_reverse]
  generalize text.toList = letters
  induction letters with
  | nil => simp
  | cons letter rest induction =>
      by_cases blank : isBlank letter = true
      · simpa [blank] using induction
      · simp [blank]

end RowMapping.Text
