import VisualNovel.Numeric.Binary64

/-!
# Ranges of numbers

Integers have no bounds and floating-point numbers do: going from one kind to the
other, and dividing integers, fails where the result is out of range. Everything
within the range is rounded to the nearest number, or loses its fraction.
-/

set_option autoImplicit false

namespace VisualNovel.Numeric

inductive RangeError where
  /-- An integer beyond all floating-point numbers. -/
  | integerTooLarge
  /-- A ratio of integers beyond all floating-point numbers. -/
  | ratioTooLarge
  /-- Infinity where an integer is wanted. -/
  | infinite
  /-- No number at all where an integer is wanted. -/
  | notANumber
  deriving DecidableEq, Repr

def RangeError.message : RangeError → String
  | .integerTooLarge => "int too large to convert to float"
  | .ratioTooLarge => "integer division result too large for a float"
  | .infinite => "cannot convert float infinity to integer"
  | .notANumber => "cannot convert float NaN to integer"

def finiteOr (error : RangeError) (number : Float) : Except RangeError Float :=
  if number.isInf then .error error else .ok number

def floatOfInteger (integer : Int) : Except RangeError Float :=
  finiteOr .integerTooLarge (nearest (decide (integer < 0)) integer.natAbs 1)

def ratio (numerator denominator : Int) : Except RangeError Float :=
  finiteOr .ratioTooLarge
    (nearest (decide (numerator < 0) != decide (denominator < 0)) numerator.natAbs
      denominator.natAbs)

def integerBy (size : (mantissa : Nat) → (exponent : Int) → Nat) (number : Float) :
    Except RangeError Int :=
  match Exact.of number with
  | .nan => .error .notANumber
  | .infinite _ => .error .infinite
  | .finite negative mantissa exponent =>
      .ok (if negative then -(size mantissa exponent : Int) else size mantissa exponent)

def integerPart (number : Float) : Except RangeError Int :=
  integerBy wholePart number

/-- The integer nearest to a floating-point number, a tie to the even one. -/
def rounded (number : Float) : Except RangeError Int :=
  integerBy roundedPart number

/-- The integer that the same counts are below as are below a number. No count is below what is no
number, and infinity is above all of them. -/
def countBound (number : Float) : Int :=
  match Exact.of number with
  | .nan => 0
  | .infinite negative => if negative then 0 else twoTo 1024
  | .finite negative mantissa exponent =>
      if negative then -(wholePart mantissa exponent : Int) else ceilingPart mantissa exponent

/-!
## Numbers between zero and one

Volumes and progress are numbers from zero to one; anything else is brought to the
nearer end. What compares with neither end is one.
-/

def clampUnit (number : Float) : Float :=
  let below := if number < 1.0 then number else 1.0
  if 0.0 < below then below else 0.0

end VisualNovel.Numeric
