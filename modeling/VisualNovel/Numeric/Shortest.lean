import VisualNovel.Numeric.Binary64

/-!
# The fewest digits that read back

A positive floating-point number is written with the fewest decimal digits that
determine it: every number of digits spans a decimal grid, and the first grid
that has a point nearer to the number than to any other floating-point number
gives the digits, those of the nearest such point.
-/

set_option autoImplicit false

namespace VisualNovel.Numeric

structure Quotient where
  numerator : Nat
  denominator : Nat
  deriving DecidableEq, Repr

namespace Quotient

def le (left right : Quotient) : Bool :=
  left.numerator * right.denominator ≤ right.numerator * left.denominator

def lt (left right : Quotient) : Bool :=
  left.numerator * right.denominator < right.numerator * left.denominator

def binary (mantissa : Nat) (exponent : Int) : Quotient :=
  if 0 ≤ exponent then ⟨mantissa * twoTo exponent.toNat, 1⟩ else ⟨mantissa, twoTo (-exponent).toNat⟩

def decimal (digits : Nat) (power : Int) : Quotient :=
  if 0 ≤ power then ⟨digits * tenTo power.toNat, 1⟩ else ⟨digits, tenTo (-power).toNat⟩

/-- The largest natural number whose product with a power of ten is not above the quotient. -/
def floorAt (value : Quotient) (power : Int) : Nat :=
  if 0 ≤ power then value.numerator / (value.denominator * tenTo power.toNat)
  else value.numerator * tenTo (-power).toNat / value.denominator

end Quotient

/-- The numbers that round to a floating-point number: an interval of quotients whose ends
belong to it if the number's mantissa is even. -/
structure Rounding where
  value : Quotient
  low : Quotient
  high : Quotient
  closed : Bool
  deriving DecidableEq, Repr

/-- The interval of the numbers that round to a positive mantissa times a power of two. The gap
below the least mantissa of an exponent is half the gap above it. -/
def Rounding.of (mantissa : Nat) (exponent : Int) : Rounding where
  value := .binary mantissa exponent
  low :=
    if mantissa = twoTo 52 ∧ -1074 < exponent then .binary (4 * mantissa - 1) (exponent - 2)
    else .binary (2 * mantissa - 1) (exponent - 1)
  high := .binary (2 * mantissa + 1) (exponent - 1)
  closed := mantissa % 2 = 0

def Rounding.contains (rounding : Rounding) (point : Quotient) : Bool :=
  if rounding.closed then rounding.low.le point && point.le rounding.high
  else rounding.low.lt point && point.lt rounding.high

/-- Decimal digits and the power of ten of the last of them. -/
structure Decimal where
  digits : Nat
  power : Int
  deriving DecidableEq, Repr

/-- The point of a decimal grid that reads back as the interval's number, the nearest of two. -/
def Rounding.gridPoint? (rounding : Rounding) (power : Int) : Option Decimal :=
  let below := rounding.value.floorAt power
  let lower := Quotient.decimal below power
  let upper := Quotient.decimal (below + 1) power
  match decide (below ≠ 0) && rounding.contains lower, rounding.contains upper with
  | false, false => none
  | true, false => some ⟨below, power⟩
  | false, true => some ⟨below + 1, power⟩
  | true, true =>
      -- the midpoint of the two is `2 * below + 1` halves of the unit
      let twice : Quotient := ⟨2 * rounding.value.numerator, rounding.value.denominator⟩
      let middle := Quotient.decimal (2 * below + 1) power
      if twice.lt middle then some ⟨below, power⟩
      else if middle.lt twice then some ⟨below + 1, power⟩
      else if below % 2 = 0 then some ⟨below, power⟩
      else some ⟨below + 1, power⟩

/-- The first grid with a point, from a power of ten downwards. -/
def Rounding.searchFrom (rounding : Rounding) (power : Int) : Nat → Decimal
  | 0 => ⟨rounding.value.floorAt power, power⟩
  | grids + 1 =>
      match rounding.gridPoint? power with
      | some point => point
      | none => rounding.searchFrom (power - 1) grids

def leadingPower (mantissa : Nat) (exponent : Int) : Int :=
  ((mantissa.log2 : Int) + exponent) * 30103 / 100000 + 1

/-- Digits without the zeros at their end. The count bounds the number of zeros. -/
def dropZeros : Nat → Decimal → Decimal
  | 0, decimal => decimal
  | count + 1, decimal =>
      if decimal.digits % 10 = 0 ∧ decimal.digits ≠ 0 then
        dropZeros count ⟨decimal.digits / 10, decimal.power + 1⟩
      else decimal

/-- The shortest decimal that reads back as a positive mantissa times a power of two. Seventeen
digits always suffice; the search starts up to two places above the first of them. -/
def shortest (mantissa : Nat) (exponent : Int) : Decimal :=
  dropZeros 20 ((Rounding.of mantissa exponent).searchFrom (leadingPower mantissa exponent) 20)

end VisualNovel.Numeric
