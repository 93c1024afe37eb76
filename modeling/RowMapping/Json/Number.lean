import RowMapping.Numeric.Binary

/-!
# Numbers of documents

An integer that fits a 64-bit type, signed or unsigned, is kept as it is; every other number is a
64-bit binary one. The two kinds never compare equal.
-/

namespace RowMapping

/-- An integer that a signed or an unsigned 64-bit type can hold. -/
structure WideInteger where
  value : Int
  lower : -9223372036854775808 ≤ value
  upper : value < 18446744073709551616
  deriving DecidableEq, Repr

namespace WideInteger

/-- The integer, if it is in range. -/
def ofInt? (value : Int) : Option WideInteger :=
  if inRange : -9223372036854775808 ≤ value ∧ value < 18446744073709551616 then
    some ⟨value, inRange.1, inRange.2⟩
  else none

theorem ofInt?_value (integer : WideInteger) : ofInt? integer.value = some integer := by
  simp [ofInt?, integer.lower, integer.upper]

/-- The nearest number of the 32-bit format. -/
def toBinary32 (integer : WideInteger) : Binary32 :=
  .ofFloat32 <|
    if integer.value < 0 then (Int64.ofInt integer.value).toFloat32
    else integer.value.toNat.toUInt64.toFloat32

/-- The nearest number of the 64-bit format. -/
def toBinary64 (integer : WideInteger) : Binary64 :=
  .ofFloat <|
    if integer.value < 0 then (Int64.ofInt integer.value).toFloat
    else integer.value.toNat.toUInt64.toFloat

end WideInteger

inductive Json.Number where
  /-- An integer in 64-bit range. -/
  | integer (value : WideInteger)
  /-- Any other number. -/
  | double (value : Binary64)
  deriving DecidableEq, Repr

namespace Json.Number

/-- Equality of numbers of one kind; an integer differs from every binary number. -/
def equals : Number → Number → Bool
  | integer left, integer right => left == right
  | double left, double right => left.equals right
  | _, _ => false

/-- The number in the 32-bit format, rounded to nearest. -/
def toBinary32 : Number → Binary32
  | integer value => value.toBinary32
  | double value => value.toBinary32

/-- The number in the 64-bit format, rounded to nearest. -/
def toBinary64 : Number → Binary64
  | integer value => value.toBinary64
  | double value => value

end Json.Number

end RowMapping
