import Mathlib.Data.List.Forall2
import RowMapping.Json.Quoted

/-!
# Strings read back

A character is written as itself, by a short escape, or as the one unit of its code. Each of these
is read as a piece that stands for the character, and the text behind the pieces is the text written.
-/

namespace RowMapping.Json.Quoted

/-- The piece stands for the character. -/
inductive StandsFor : Piece → Char → Prop where
  | character (value : Char) : StandsFor (.character value) value
  /-- A control character has a code below those of surrogates. -/
  | unit {value : Char} (control : value.toNat < 0x20) : StandsFor (.unit value.toNat) value

theorem hexDigit?_digitChar : ∀ digit < 16, hexDigit? (Nat.digitChar digit) = some digit := by
  decide

theorem hexUnit?_control {code : Nat} (control : code < 0x20) :
    hexUnit? '0' '0' (Nat.digitChar (code / 16)) (Nat.digitChar (code % 16)) = some code := by
  have high := hexDigit?_digitChar (code / 16) (by omega)
  have low := hexDigit?_digitChar (code % 16) (by omega)
  have zero : hexDigit? '0' = some 0 := by decide
  have joined : code / 16 * 16 + code % 16 = code := Nat.div_add_mod' code 16
  simp [hexUnit?, high, low, zero, joined]

/-- One more piece in front of a scan. -/
def prepend (piece : Piece) : List Piece × List Char → List Piece × List Char :=
  Prod.map (piece :: ·) id

theorem scan?_short {letter character : Char} (short : shortEscape? letter = some character)
    (rest : List Char) :
    scan? ('\\' :: letter :: rest) = (scan? rest).map (prepend (.character character)) := by
  have letter_ne : letter ≠ 'u' := by
    rintro rfl
    cases short
  rw [scan?, short]
  · cases scan? rest <;> rfl
  · exact fun _ _ _ _ _ same => absurd same letter_ne

theorem scan?_unit (first second third fourth : Char) (rest : List Char) {code : Nat}
    (read : hexUnit? first second third fourth = some code) :
    scan? ('\\' :: 'u' :: first :: second :: third :: fourth :: rest) =
      (scan? rest).map (prepend (.unit code)) := by
  rw [scan?, read]
  cases scan? rest <;> rfl

theorem scan?_plain {letter : Char} (quote_ne : letter ≠ '"') (backslash_ne : letter ≠ '\\')
    (printable : ¬ letter.toNat < 0x20) (rest : List Char) :
    scan? (letter :: rest) = (scan? rest).map (prepend (.character letter)) := by
  rw [scan?, if_neg printable]
  · cases scan? rest <;> rfl
  · exact quote_ne
  · exact fun _ _ _ _ _ same => absurd same backslash_ne
  · exact fun _ _ same => absurd same backslash_ne

/-- What is written for a character is read as one piece that stands for it. -/
theorem exists_scan?_escape (character : Char) (rest : List Char) :
    ∃ piece, StandsFor piece character ∧
      scan? (escape character ++ rest) = (scan? rest).map (prepend piece) := by
  unfold escape
  split
  case h_8 quote_ne backslash_ne _ _ _ _ _ =>
    split
    · rename_i control
      exact ⟨_, .unit control, scan?_unit _ _ _ _ rest (hexUnit?_control control)⟩
    · rename_i printable
      exact ⟨_, .character character, scan?_plain quote_ne backslash_ne printable rest⟩
  all_goals exact ⟨_, .character _, scan?_short rfl rest⟩

theorem decode?_unit {code : Nat} (single : code < 0xD800) (pieces : List Piece) :
    decode? (.unit code :: pieces) = (decode? pieces).map (Char.ofNat code :: ·) := by
  have notLeading : isLeading code = false := by
    rw [isLeading, Bool.and_eq_false_iff]
    exact .inl (by simpa using single)
  have notTrailing : isTrailing code = false := by
    rw [isTrailing, Bool.and_eq_false_iff]
    exact .inl (by simp; omega)
  cases pieces with
  | nil => simp [decode?, notLeading, notTrailing]
  | cons piece pieces => cases piece <;> simp [decode?, notLeading, notTrailing]

theorem decode?_of_standsFor {pieces : List Piece} {text : List Char}
    (standFor : List.Forall₂ StandsFor pieces text) : decode? pieces = some text := by
  induction standFor with
  | nil => rfl
  | cons here _ ih =>
      cases here with
      | character value => rw [decode?, ih, Option.map_some]
      | unit control =>
          rw [decode?_unit (Nat.lt_trans control (by decide)), ih, Option.map_some,
            Char.ofNat_toNat]

/-- A text between quotation marks is read back, whatever follows. -/
theorem exists_scan?_flatMap_escape (text rest : List Char) :
    ∃ pieces, decode? pieces = some text ∧
      scan? (text.flatMap escape ++ '"' :: rest) = some (pieces, rest) := by
  suffices scanned : ∃ pieces, List.Forall₂ StandsFor pieces text ∧
      scan? (text.flatMap escape ++ '"' :: rest) = some (pieces, rest) by
    obtain ⟨pieces, standFor, read⟩ := scanned
    exact ⟨pieces, decode?_of_standsFor standFor, read⟩
  induction text with
  | nil => exact ⟨[], .nil, by simp [scan?]⟩
  | cons character text ih =>
      obtain ⟨pieces, standFor, read⟩ := ih
      obtain ⟨piece, here, escaped⟩ :=
        exists_scan?_escape character (text.flatMap escape ++ '"' :: rest)
      refine ⟨piece :: pieces, .cons here standFor, ?_⟩
      rw [List.flatMap_cons, List.append_assoc, escaped, read]
      rfl

end RowMapping.Json.Quoted
