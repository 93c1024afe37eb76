import RowMapping.Json.Numeral

/-!
# Numerals read back

A numeral whose parts are digits, the whole part without superfluous zeros, is read back in front of
anything that does not continue it. The numerals of integers are of that kind and stand for their
integers.
-/

namespace RowMapping.Numeral

/-! ## Digits -/

/-- Digits, at least one. -/
structure IsDigits (digits : List Char) : Prop where
  digits_ne : digits ≠ []
  isDigit : ∀ letter ∈ digits, letter.isDigit = true

theorem isDigits_toDigits (number : Nat) : IsDigits (Nat.toDigits 10 number) where
  digits_ne := Nat.toDigits_ne_nil
  isDigit _ member := Nat.isDigit_of_mem_toDigits (by decide) (by decide) member

/-- What may follow digits: nothing, or a letter that is none. -/
def EndsDigits (rest : List Char) : Prop := ∀ letter ∈ rest.head?, letter.isDigit = false

theorem digits?_append {digits rest : List Char} (isDigits : IsDigits digits)
    (ends : EndsDigits rest) : digits? (digits ++ rest) = some (digits, rest) := by
  have ended : rest.takeWhile Char.isDigit = [] ∧ rest.dropWhile Char.isDigit = rest := by
    cases rest with
    | nil => simp
    | cons letter rest => simp [ends letter rfl]
  rw [digits?, List.takeWhile_append_of_pos isDigits.isDigit,
    List.dropWhile_append_of_pos isDigits.isDigit, ended.1, ended.2, List.append_nil]
  cases digits with
  | nil => exact absurd rfl isDigits.digits_ne
  | cons first more => rfl

/-- Only the number zero is written with a leading zero. -/
theorem eq_nil_of_toDigits_eq_cons {number : Nat} {more : List Char}
    (leading : Nat.toDigits 10 number = '0' :: more) : more = [] := by
  induction number using Nat.strongRecOn generalizing more with
  | ind number ih =>
      by_cases small : number < 10
      · rw [Nat.toDigits_of_lt_base small] at leading
        exact (List.cons.inj leading).2.symm
      · rw [Nat.toDigits_of_base_le (by decide) (by omega)] at leading
        cases front : Nat.toDigits 10 (number / 10) with
        | nil => exact absurd front Nat.toDigits_ne_nil
        | cons first others =>
            rw [front, List.cons_append] at leading
            obtain ⟨rfl, -⟩ := List.cons.inj leading
            have others_eq : others = [] := ih (number / 10) (by omega) front
            have value_eq : Nat.ofDigitChars 10 (Nat.toDigits 10 (number / 10)) 0 = number / 10 :=
              Nat.ofDigitChars_toDigits (by decide) (by decide)
            rw [front, others_eq] at value_eq
            have zero : 0 = number / 10 := value_eq
            omega

/-! ## Numerals -/

/-- The parts of the numeral are digits, and its whole part has no superfluous zeros. -/
structure WellFormed (numeral : Numeral) : Prop where
  whole : IsDigits numeral.whole
  eq_nil_of_leading_zero : ∀ more, numeral.whole = '0' :: more → more = []
  fraction : ∀ digits ∈ numeral.fraction, IsDigits digits

/-- Whether a letter behind a numeral would be taken for a part of it. -/
def continuesNumeral (letter : Char) : Bool := letter.isDigit || ['.', 'e', 'E'].contains letter

/-- What may follow a numeral: nothing, or a letter that does not continue it. -/
def Boundary (rest : List Char) : Prop := ∀ letter ∈ rest.head?, continuesNumeral letter = false

theorem Boundary.endsDigits {rest : List Char} (boundary : Boundary rest) : EndsDigits rest := by
  intro letter first
  have ends := boundary letter first
  rw [continuesNumeral, Bool.or_eq_false_iff] at ends
  exact ends.1

theorem Boundary.notin {rest : List Char} (boundary : Boundary rest) :
    ∀ letter ∈ rest.head?, letter ∉ ['.', 'e', 'E'] := by
  intro letter first
  have ends := boundary letter first
  rw [continuesNumeral, Bool.or_eq_false_iff] at ends
  simpa using ends.2

/-- The point and the digits after it. -/
def fractionChars : Option (List Char) → List Char
  | none => []
  | some digits => '.' :: digits

/-- The exponent with its letter. -/
def exponentChars : Option Int → List Char
  | none => []
  | some (.ofNat power) => 'e' :: Nat.toDigits 10 power
  | some (.negSucc power) => 'e' :: '-' :: Nat.toDigits 10 (power + 1)

theorem chars_eq (numeral : Numeral) :
    numeral.chars = (if numeral.negative then ['-'] else []) ++
      (numeral.whole ++ (fractionChars numeral.fraction ++ exponentChars numeral.exponent)) := by
  rw [chars, List.append_assoc, List.append_assoc]
  rfl

theorem exponentSign_append {digits rest : List Char} (isDigits : IsDigits digits) :
    exponentSign (digits ++ rest) = (false, digits ++ rest) := by
  cases digits with
  | nil => exact absurd rfl isDigits.digits_ne
  | cons first more =>
      have isDigit := isDigits.isDigit first List.mem_cons_self
      rw [List.cons_append]
      unfold exponentSign
      split
      case h_3 => rfl
      all_goals
        rename_i same
        obtain ⟨rfl, -⟩ := List.cons.inj same
        cases isDigit

theorem exponent?_append (exponent : Option Int) {rest : List Char} (boundary : Boundary rest) :
    exponent? (exponentChars exponent ++ rest) = some (exponent, rest) := by
  match exponent with
  | none =>
      rw [exponentChars, List.nil_append]
      cases rest with
      | nil => rfl
      | cons letter rest =>
          have ends := boundary.notin letter rfl
          have other : ¬ (letter = 'e' ∨ letter = 'E') := by
            rintro (rfl | rfl) <;> exact ends (by decide)
          rw [exponent?, if_neg other]
  | some (.ofNat power) =>
      have isDigits := isDigits_toDigits power
      simp [exponentChars, exponent?, exponentSign_append isDigits,
        digits?_append isDigits boundary.endsDigits]
  | some (.negSucc power) =>
      have isDigits := isDigits_toDigits (power + 1)
      simp [exponentChars, exponent?, exponentSign,
        digits?_append isDigits boundary.endsDigits, Int.negSucc_eq]

/-- An exponent, if there is one, ends the digits before it. -/
theorem endsDigits_exponentChars (exponent : Option Int) {rest : List Char}
    (boundary : Boundary rest) : EndsDigits (exponentChars exponent ++ rest) := by
  intro letter first
  match exponent with
  | none => exact boundary.endsDigits letter first
  | some (.ofNat _) | some (.negSucc _) =>
      obtain rfl := Option.some.inj first
      decide

theorem point_notin_exponentChars (exponent : Option Int) {rest : List Char}
    (boundary : Boundary rest) : '.' ∉ (exponentChars exponent ++ rest).head? := by
  intro first
  match exponent with
  | none => exact boundary.notin '.' first (by decide)
  | some (.ofNat _) | some (.negSucc _) => cases first

theorem fraction?_append {fraction : Option (List Char)}
    (isDigits : ∀ digits ∈ fraction, IsDigits digits) {rest : List Char} (ends : EndsDigits rest)
    (point_notin : '.' ∉ rest.head?) :
    fraction? (fractionChars fraction ++ rest) = some (fraction, rest) := by
  cases fraction with
  | none =>
      rw [fractionChars, List.nil_append]
      unfold fraction?
      split
      · exact absurd rfl point_notin
      · rfl
  | some digits => simp [fractionChars, fraction?, digits?_append (isDigits digits rfl) ends]

/-- A fraction, if there is one, ends the digits before it. -/
theorem endsDigits_fractionChars (fraction : Option (List Char)) {rest : List Char}
    (ends : EndsDigits rest) : EndsDigits (fractionChars fraction ++ rest) := by
  intro letter first
  cases fraction with
  | none => exact ends letter first
  | some digits =>
      obtain rfl := Option.some.inj first
      decide

theorem whole?_append {whole rest : List Char} (isDigits : IsDigits whole)
    (eq_nil_of_leading_zero : ∀ more, whole = '0' :: more → more = []) (ends : EndsDigits rest) :
    whole? (whole ++ rest) = some (whole, rest) := by
  rw [whole?, digits?_append isDigits ends]
  split
  · rename_i read
    obtain ⟨rfl, -⟩ := Prod.mk.inj (Option.some.inj read)
    cases eq_nil_of_leading_zero _ rfl
  · rfl

theorem unsigned?_append {numeral : Numeral} (wellFormed : numeral.WellFormed) {rest : List Char}
    (boundary : Boundary rest) :
    unsigned? numeral.negative (numeral.whole ++
        (fractionChars numeral.fraction ++ (exponentChars numeral.exponent ++ rest))) =
      some (numeral, rest) := by
  have afterFraction := endsDigits_exponentChars numeral.exponent boundary
  have afterWhole := endsDigits_fractionChars numeral.fraction afterFraction
  have point_notin := point_notin_exponentChars numeral.exponent boundary
  simp [unsigned?, whole?_append wellFormed.whole wellFormed.eq_nil_of_leading_zero afterWhole,
    fraction?_append wellFormed.fraction afterFraction point_notin,
    exponent?_append numeral.exponent boundary]

theorem ofChars?_of_isDigit {first : Char} (isDigit : first.isDigit = true) (letters : List Char) :
    ofChars? (first :: letters) = unsigned? false (first :: letters) := by
  unfold ofChars?
  split
  · rename_i same
    obtain ⟨rfl, -⟩ := List.cons.inj same
    cases isDigit
  · rfl

theorem ofChars?_chars {numeral : Numeral} (wellFormed : numeral.WellFormed) {rest : List Char}
    (boundary : Boundary rest) : ofChars? (numeral.chars ++ rest) = some (numeral, rest) := by
  have read := unsigned?_append wellFormed boundary
  rw [chars_eq, List.append_assoc, List.append_assoc, List.append_assoc]
  cases sign : numeral.negative with
  | true =>
      rw [sign] at read
      exact read
  | false =>
      obtain ⟨first, more, whole_eq⟩ := List.exists_cons_of_ne_nil wellFormed.whole.digits_ne
      have isDigit := wellFormed.whole.isDigit first (by simp [whole_eq])
      rw [sign, whole_eq] at read
      rw [whole_eq, if_neg Bool.false_ne_true, List.nil_append, List.cons_append,
        ofChars?_of_isDigit isDigit]
      exact read

/-- A well-formed numeral starts with its sign or a digit. -/
theorem exists_chars_eq_cons {numeral : Numeral} (wellFormed : numeral.WellFormed) :
    ∃ first more, numeral.chars = first :: more ∧ (first = '-' ∨ first.isDigit = true) := by
  rw [chars_eq]
  cases numeral.negative with
  | true => exact ⟨'-', _, rfl, .inl rfl⟩
  | false =>
      obtain ⟨first, more, whole_eq⟩ := List.exists_cons_of_ne_nil wellFormed.whole.digits_ne
      have isDigit := wellFormed.whole.isDigit first (by simp [whole_eq])
      rw [whole_eq, if_neg Bool.false_ne_true, List.nil_append, List.cons_append]
      exact ⟨first, _, rfl, .inr isDigit⟩

/-! ## Integers -/

theorem wellFormed_ofInt (value : Int) : (ofInt value).WellFormed where
  whole := isDigits_toDigits value.natAbs
  eq_nil_of_leading_zero _ leading := eq_nil_of_toDigits_eq_cons leading
  fraction := by simp [ofInt]

theorem integer?_ofInt (value : Int) : (ofInt value).integer? = WideInteger.ofInt? value := by
  have magnitude_eq : Nat.ofDigitChars 10 (Nat.toDigits 10 value.natAbs) 0 = value.natAbs :=
    Nat.ofDigitChars_toDigits (by decide) (by decide)
  by_cases negative : value < 0
  · have magnitude_ne : ¬ (value.natAbs : Int) = 0 := by omega
    have magnitude_neg : -(value.natAbs : Int) = value := by omega
    simp only [integer?, ofInt, magnitude_eq, negative, decide_true, if_true]
    rw [if_neg magnitude_ne, magnitude_neg]
  · have natAbs_eq : (value.natAbs : Int) = value := by omega
    simp only [integer?, ofInt, magnitude_eq, negative, decide_false, Bool.false_eq_true, if_false]
    rw [natAbs_eq]

theorem number?_ofInt (integer : WideInteger) :
    (ofInt integer.value).number? = some (.integer integer) := by
  rw [number?, integer?_ofInt, WideInteger.ofInt?_value]

end RowMapping.Numeral
