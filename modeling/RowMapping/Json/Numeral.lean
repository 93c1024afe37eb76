import RowMapping.Json.Number
import RowMapping.Numeric.Shortest

/-!
# Numerals

How numbers are written in documents: an optional sign, a whole part without superfluous zeros, an
optional fraction and an optional exponent. `ofChars?` reads the numeral at the start of a text,
`number?` gives its value, and `ofNumber?` writes a number.

A whole numeral in 64-bit range is an integer, save for negative zero. Any other numeral takes as
many leading digits as an unsigned 64-bit integer holds, ignores the digits after them, and scales
the nearest binary number by a power of ten; a result beyond the largest binary number is refused.
-/

namespace RowMapping

structure Numeral where
  /-- Whether a minus sign stands in front. -/
  negative : Bool
  /-- The digits before the point. -/
  whole : List Char
  /-- The digits after the point, if there is one. -/
  fraction : Option (List Char)
  /-- The exponent, if there is one. -/
  exponent : Option Int
  deriving DecidableEq, Repr

namespace Numeral

/-! ## Writing -/

/-- The numeral in full. -/
def chars (numeral : Numeral) : List Char :=
  (if numeral.negative then ['-'] else []) ++ numeral.whole ++
    (match numeral.fraction with
      | none => []
      | some digits => '.' :: digits) ++
    match numeral.exponent with
    | none => []
    | some (.ofNat power) => 'e' :: Nat.toDigits 10 power
    | some (.negSucc power) => 'e' :: '-' :: Nat.toDigits 10 (power + 1)

def ofInt (value : Int) : Numeral := ⟨value < 0, Nat.toDigits 10 value.natAbs, none, none⟩

/-- Where decimals are written without an exponent. -/
structure Style where
  /-- The greatest number of digits before the point. -/
  wholeDigits : Int
  /-- The greatest number of zeros between the point and the first digit. -/
  leadingZeros : Int

/-- A decimal always has a point or an exponent. -/
def ofDecimal (style : Style) (negative : Bool) (decimal : Decimal) : Numeral :=
  let digits := Nat.toDigits 10 decimal.coefficient
  let point := (digits.length : Int) + decimal.exponent
  if 0 ≤ decimal.exponent ∧ point ≤ style.wholeDigits then
    ⟨negative, digits ++ List.replicate decimal.exponent.toNat '0', some ['0'], none⟩
  else if 0 < point ∧ point ≤ style.wholeDigits then
    ⟨negative, digits.take point.toNat, some (digits.drop point.toNat), none⟩
  else if -style.leadingZeros ≤ point ∧ point ≤ 0 then
    ⟨negative, ['0'], some (List.replicate (-point).toNat '0' ++ digits), none⟩
  else
    ⟨negative, digits.take 1, if digits.length = 1 then none else some (digits.drop 1),
      some (point - 1)⟩

def style64 : Style := ⟨16, 4⟩

def style32 : Style := ⟨13, 5⟩

/-- A zero with its sign. -/
def ofZero (negative : Bool) : Numeral := ⟨negative, ['0'], some ['0'], none⟩

/-- The shortest numeral that reads back as a 64-bit number; there is none for infinities and
NaNs. -/
def ofBinary64? (number : Binary64) : Option Numeral :=
  if !number.isFinite then none
  else if number.isZero then some (ofZero number.isNegative)
  else some (ofDecimal style64 number.isNegative number.shortest)

/-- The shortest numeral that reads back as a 32-bit number; there is none for infinities and
NaNs. -/
def ofBinary32? (number : Binary32) : Option Numeral :=
  if !number.isFinite then none
  else if number.isZero then some (ofZero number.isNegative)
  else some (ofDecimal style32 number.isNegative number.shortest)

/-- The numeral of a document's number. -/
def ofNumber? : Json.Number → Option Numeral
  | .integer integer => some (ofInt integer.value)
  | .double number => ofBinary64? number

/-! ## Reading -/

/-- The digits at the start of a text, at least one, and what follows them. -/
def digits? (letters : List Char) : Option (List Char × List Char) :=
  match letters.takeWhile Char.isDigit with
  | [] => none
  | first :: more => some (first :: more, letters.dropWhile Char.isDigit)

/-- The digits before the point: a zero stands alone. -/
def whole? (letters : List Char) : Option (List Char × List Char) :=
  match digits? letters with
  | some ('0' :: _ :: _, _) => none
  | other => other

/-- The point and the digits after it, if the text goes on with a point. -/
def fraction? : List Char → Option (Option (List Char) × List Char)
  | '.' :: rest => (digits? rest).map fun (digits, rest) => (some digits, rest)
  | rest => some (none, rest)

def exponentSign : List Char → Bool × List Char
  | '-' :: rest => (true, rest)
  | '+' :: rest => (false, rest)
  | rest => (false, rest)

/-- The exponent, if the text goes on with one. -/
def exponent? : List Char → Option (Option Int × List Char)
  | letter :: rest =>
      if letter = 'e' ∨ letter = 'E' then
        let (negative, rest) := exponentSign rest
        (digits? rest).map fun (digits, rest) =>
          let power : Int := Nat.ofDigitChars 10 digits 0
          (some (if negative then -power else power), rest)
      else some (none, letter :: rest)
  | [] => some (none, [])

/-- What follows the sign. -/
def unsigned? (negative : Bool) (letters : List Char) : Option (Numeral × List Char) := do
  let (whole, rest) ← whole? letters
  let (fraction, rest) ← fraction? rest
  let (exponent, rest) ← exponent? rest
  return (⟨negative, whole, fraction, exponent⟩, rest)

/-- The numeral at the start of a text, and what follows it. -/
def ofChars? : List Char → Option (Numeral × List Char)
  | '-' :: rest => unsigned? true rest
  | letters => unsigned? false letters

/-! ## What reading consumes -/

theorem length_digits? {letters digits rest : List Char}
    (read : digits? letters = some (digits, rest)) : rest.length < letters.length := by
  have split := List.takeWhile_append_dropWhile (p := Char.isDigit) (l := letters)
  simp only [digits?] at read
  split at read
  · simp at read
  · rename_i first more taken
    simp only [Option.some.injEq, Prod.mk.injEq] at read
    obtain ⟨-, rfl⟩ := read
    have lengths := congrArg List.length split
    simp only [taken, List.length_append, List.length_cons] at lengths
    omega

theorem length_whole? {letters digits rest : List Char}
    (read : whole? letters = some (digits, rest)) : rest.length < letters.length := by
  simp only [whole?] at read
  split at read
  · simp at read
  · exact length_digits? read

theorem length_fraction? {letters rest : List Char} {digits : Option (List Char)}
    (read : fraction? letters = some (digits, rest)) : rest.length ≤ letters.length := by
  simp only [fraction?] at read
  split at read
  · obtain ⟨⟨taken, left⟩, digitsRead, pair⟩ := Option.map_eq_some_iff.mp read
    obtain ⟨-, rfl⟩ := Prod.mk.inj pair
    have shorter := length_digits? digitsRead
    simp only [List.length_cons]
    omega
  · simp only [Option.some.injEq, Prod.mk.injEq] at read
    simp [read.2]

theorem length_exponentSign (letters : List Char) :
    (exponentSign letters).2.length ≤ letters.length := by
  simp only [exponentSign]
  split <;> simp

theorem length_exponent? {letters rest : List Char} {power : Option Int}
    (read : exponent? letters = some (power, rest)) : rest.length ≤ letters.length := by
  cases letters with
  | nil =>
      simp only [exponent?, Option.some.injEq, Prod.mk.injEq] at read
      simp [← read.2]
  | cons letter letters =>
      simp only [exponent?] at read
      split at read
      · obtain ⟨⟨taken, left⟩, digitsRead, pair⟩ := Option.map_eq_some_iff.mp read
        obtain ⟨-, rfl⟩ := Prod.mk.inj pair
        have shorter := length_digits? digitsRead
        have sign := length_exponentSign letters
        simp only [List.length_cons]
        omega
      · simp only [Option.some.injEq, Prod.mk.injEq] at read
        simp [read.2]

theorem length_unsigned? {negative : Bool} {letters rest : List Char} {numeral : Numeral}
    (read : unsigned? negative letters = some (numeral, rest)) :
    rest.length < letters.length := by
  simp only [unsigned?, Option.bind_eq_bind, Option.bind_eq_some_iff] at read
  obtain ⟨⟨whole, afterWhole⟩, wholeRead, ⟨fraction, afterFraction⟩, fractionRead,
    ⟨exponent, afterExponent⟩, exponentRead, pair⟩ := read
  simp only [Option.pure_def, Option.some.injEq, Prod.mk.injEq] at pair
  have first := length_whole? wholeRead
  have second := length_fraction? fractionRead
  have third := length_exponent? exponentRead
  simp only at second third
  rw [← pair.2]
  omega

theorem length_ofChars? {letters rest : List Char} {numeral : Numeral}
    (read : ofChars? letters = some (numeral, rest)) : rest.length < letters.length := by
  simp only [ofChars?] at read
  split at read
  · have shorter := length_unsigned? read
    simp only [List.length_cons]
    omega
  · exact length_unsigned? read

/-! ## Value -/

/-- Append digits to a number while the result fits an unsigned 64-bit integer; the second answer
is the number of digits that no longer fit. -/
def accumulate (number : Nat) : List Char → Nat × Nat
  | [] => (number, 0)
  | digit :: rest =>
      let longer := 10 * number + (digit.toNat - '0'.toNat)
      if longer < 18446744073709551616 then accumulate longer rest else (number, rest.length + 1)

/-- The leading digits that fit, and the power of ten they are to be multiplied by. -/
def scaled (numeral : Numeral) : Nat × Int :=
  let (front, ignored) := accumulate 0 numeral.whole
  let fraction := numeral.fraction.getD []
  let (number, unread) := accumulate front fraction
  (number, numeral.exponent.getD 0 + ignored - (fraction.length - unread : Nat))

/-- The nearest binary number to a power of ten that is in range. -/
def powerOfTen (power : Nat) : Float := Float.ofScientific 1 false power

/-- Divide by a power of ten, in steps small enough for a power in range. -/
def scaleDown (number : Float) (power : Nat) : Float :=
  if small : power ≤ 308 then number / powerOfTen power
  else if number == 0 then number
  else scaleDown (number / powerOfTen 308) (power - 308)
  termination_by power
  decreasing_by omega

/-- Multiply by a power of ten; a result out of range is refused. -/
def scale? (number : Float) : Int → Option Float
  | .ofNat power =>
      if power ≤ 308 then
        let product := number * powerOfTen power
        if product.isInf then none else some product
      else if number == 0 then some number else none
  | .negSucc power => some (scaleDown number (power + 1))

/-- The binary number nearest to the numeral, as far as its leading digits go. -/
def binary64? (numeral : Numeral) : Option Binary64 := do
  let (number, power) := numeral.scaled
  let magnitude ← scale? number.toUInt64.toFloat power
  return .ofFloat (if numeral.negative then -magnitude else magnitude)

/-- The integer that a numeral without fraction and exponent stands for. Negative zero is none. -/
def integer? (numeral : Numeral) : Option WideInteger :=
  match numeral.fraction, numeral.exponent with
  | none, none =>
      let magnitude : Int := Nat.ofDigitChars 10 numeral.whole 0
      if numeral.negative then
        if magnitude = 0 then none else WideInteger.ofInt? (-magnitude)
      else WideInteger.ofInt? magnitude
  | _, _ => none

/-- The value of a numeral; there is none if it is beyond every binary number. -/
def number? (numeral : Numeral) : Option Json.Number :=
  match numeral.integer? with
  | some integer => some (.integer integer)
  | none => numeral.binary64?.map .double

end Numeral

end RowMapping
