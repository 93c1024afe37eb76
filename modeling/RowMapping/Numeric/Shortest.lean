import RowMapping.Numeric.Binary

/-!
# Shortest decimals

A binary number stands for every decimal nearer to it than to its neighbours. Of the decimals that
read back as the number, `shortest` takes one with the fewest digits, and of those the nearest; of
two that are equally near it takes the one whose last digit is even. All arithmetic is exact.
-/

namespace RowMapping

/-- A decimal number `coefficient * 10 ^ exponent`. -/
structure Decimal where
  /-- The digits as one number. -/
  coefficient : Nat
  /-- The place of the last digit. -/
  exponent : Int
  deriving DecidableEq, Repr

/-- A positive number `value / scale` and the open or closed interval of the numbers that round to
it. -/
structure RoundingInterval where
  /-- The lower end, over `scale`. -/
  lower : Nat
  /-- The number itself, over `scale`. -/
  value : Nat
  /-- The upper end, over `scale`. -/
  upper : Nat
  /-- The common denominator. -/
  scale : Nat
  /-- Whether the ends round to the number too. -/
  closed : Bool
  deriving DecidableEq, Repr

namespace RoundingInterval

/-- The interval of the number `mantissa * 2 ^ exponent`. Below a power of two the next number is
only half as far, unless the numbers there are the smallest ones of the format. -/
def ofBinary (mantissa : Nat) (exponent : Int) (halfGapBelow : Bool) : RoundingInterval :=
  let up := Nat.pow 2 (exponent - 2).toNat
  { lower := (4 * mantissa - if halfGapBelow then 1 else 2) * up
    value := 4 * mantissa * up
    upper := (4 * mantissa + 2) * up
    scale := Nat.pow 2 (2 - exponent).toNat
    closed := mantissa % 2 == 0 }

/-- Whether the decimal lies in the interval. -/
def admits (interval : RoundingInterval) (decimal : Decimal) : Bool :=
  let point := decimal.coefficient * Nat.pow 10 decimal.exponent.toNat * interval.scale
  let unit := Nat.pow 10 (-decimal.exponent).toNat
  if interval.closed then interval.lower * unit ≤ point && point ≤ interval.upper * unit
  else interval.lower * unit < point && point < interval.upper * unit

/-- The number over the step of the grid of decimals with the given last place: the integral part
of the quotient, and the remainder together with what it is a remainder of. -/
def divide (interval : RoundingInterval) (exponent : Int) : Nat × Nat × Nat :=
  let number := interval.value * Nat.pow 10 (-exponent).toNat
  let step := interval.scale * Nat.pow 10 exponent.toNat
  (number / step, number % step, step)

/-- The decimal with the given last place that the interval admits and that is nearest to the
number, if one of the number's two neighbours on that grid is admitted. -/
def onGrid? (interval : RoundingInterval) (exponent : Int) : Option Decimal :=
  let (quotient, remainder, step) := interval.divide exponent
  let below : Decimal := ⟨quotient, exponent⟩
  let above : Decimal := ⟨quotient + 1, exponent⟩
  match interval.admits below, interval.admits above with
  | false, false => none
  | true, false => some below
  | false, true => some above
  | true, true =>
      let excess := 2 * remainder
      some (if excess < step || (excess == step && quotient % 2 == 0) then below else above)

/-- The first grid, from coarse to fine, that has an admitted decimal; where none has, the number is
rounded down on the finest one. -/
def refine (interval : RoundingInterval) (exponent : Int) : Nat → Decimal
  | 0 => ⟨(interval.divide exponent).1, exponent⟩
  | steps + 1 => (interval.onGrid? exponent).getD (interval.refine (exponent - 1) steps)

/-- The shortest decimal of a positive number. A grid coarser than the number by two places admits
nothing, and seventeen digits always suffice. -/
def shortest (interval : RoundingInterval) : Decimal :=
  let exponent : Int := (Nat.log2 interval.value : Int) - Nat.log2 interval.scale
  interval.refine ((exponent + 1) * 30103 / 100000 + 2) 22

end RoundingInterval

/-- The shortest decimal of the magnitude of a finite number other than zero. -/
def Binary64.shortest (number : Binary64) : Decimal :=
  let field := (number.magnitude >>> 52).toNat
  let fraction := (number.magnitude &&& 0xFFFFFFFFFFFFF).toNat
  let mantissa := if field = 0 then fraction else fraction + Nat.pow 2 52
  let exponent : Int := (if field = 0 then 1 else field) - 1075
  (RoundingInterval.ofBinary mantissa exponent (fraction == 0 && field > 1)).shortest

/-- The shortest decimal of the magnitude of a finite number other than zero. -/
def Binary32.shortest (number : Binary32) : Decimal :=
  let field := (number.magnitude >>> 23).toNat
  let fraction := (number.magnitude &&& 0x7FFFFF).toNat
  let mantissa := if field = 0 then fraction else fraction + Nat.pow 2 23
  let exponent : Int := (if field = 0 then 1 else field) - 150
  (RoundingInterval.ofBinary mantissa exponent (fraction == 0 && field > 1)).shortest

end RowMapping
