/-!
# Binary floating-point numbers

Numbers of the IEEE 754 formats of 32 and 64 bits, held as their bit patterns. Two patterns are told
apart by `=`; `equals` is the comparison of the numbers they stand for, under which the zeros of
both signs agree and a NaN agrees with nothing.
-/

namespace RowMapping

/-- A number of the 32-bit format. -/
structure Binary32 where
  /-- Sign, eight exponent bits and 23 fraction bits. -/
  bits : UInt32
  deriving DecidableEq, Repr

/-- A number of the 64-bit format. -/
structure Binary64 where
  /-- Sign, eleven exponent bits and 52 fraction bits. -/
  bits : UInt64
  deriving DecidableEq, Repr

namespace Binary32

/-- Positive zero. -/
def zero : Binary32 := ⟨0⟩

/-- Whether the sign bit is set. -/
def isNegative (number : Binary32) : Bool := number.bits &&& 0x80000000 != 0

/-- The pattern with its sign bit cleared. -/
def magnitude (number : Binary32) : UInt32 := number.bits &&& 0x7FFFFFFF

/-- Whether the number is a zero of either sign. -/
def isZero (number : Binary32) : Bool := number.magnitude == 0

def isFinite (number : Binary32) : Bool := number.magnitude < 0x7F800000

def isNaN (number : Binary32) : Bool := number.magnitude > 0x7F800000

/-- Equality of the numbers that two patterns stand for. -/
def equals (left right : Binary32) : Bool :=
  !left.isNaN && !right.isNaN && (left == right || (left.isZero && right.isZero))

/-- The pattern of a machine number. -/
def ofFloat32 (number : Float32) : Binary32 := ⟨number.toBits⟩

/-- The machine number of a pattern. -/
def toFloat32 (number : Binary32) : Float32 := Float32.ofBits number.bits

/-- An 8-bit integer as a number; exact. -/
def ofInt8 (value : Int8) : Binary32 := ofFloat32 value.toFloat32

/-- A 16-bit integer as a number; exact. -/
def ofInt16 (value : Int16) : Binary32 := ofFloat32 value.toFloat32

end Binary32

namespace Binary64

/-- Positive zero. -/
def zero : Binary64 := ⟨0⟩

/-- Whether the sign bit is set. -/
def isNegative (number : Binary64) : Bool := number.bits &&& 0x8000000000000000 != 0

/-- The pattern with its sign bit cleared. -/
def magnitude (number : Binary64) : UInt64 := number.bits &&& 0x7FFFFFFFFFFFFFFF

/-- Whether the number is a zero of either sign. -/
def isZero (number : Binary64) : Bool := number.magnitude == 0

def isFinite (number : Binary64) : Bool := number.magnitude < 0x7FF0000000000000

def isNaN (number : Binary64) : Bool := number.magnitude > 0x7FF0000000000000

/-- Equality of the numbers that two patterns stand for. -/
def equals (left right : Binary64) : Bool :=
  !left.isNaN && !right.isNaN && (left == right || (left.isZero && right.isZero))

/-- The pattern of a machine number. -/
def ofFloat (number : Float) : Binary64 := ⟨number.toBits⟩

/-- The machine number of a pattern. -/
def toFloat (number : Binary64) : Float := Float.ofBits number.bits

/-- An 8-bit integer as a number; exact. -/
def ofInt8 (value : Int8) : Binary64 := ofFloat value.toFloat

/-- A 16-bit integer as a number; exact. -/
def ofInt16 (value : Int16) : Binary64 := ofFloat value.toFloat

/-- A 32-bit integer as a number; exact. -/
def ofInt32 (value : Int32) : Binary64 := ofFloat value.toFloat

/-- A number of the smaller format; exact. -/
def ofBinary32 (number : Binary32) : Binary64 := ofFloat number.toFloat32.toFloat

/-- The nearest number of the smaller format; too large a number becomes infinite. -/
def toBinary32 (number : Binary64) : Binary32 := .ofFloat32 number.toFloat.toFloat32

end Binary64

end RowMapping
