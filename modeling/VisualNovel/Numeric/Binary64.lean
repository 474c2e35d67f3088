/-!
# Floating-point numbers as exact values

A finite floating-point number is a natural number times a power of two, with a
sign. Here it is taken apart into these and put together from a quotient of
natural numbers, rounded to the nearest number that there is, a tie to the even
one.
-/

set_option autoImplicit false

namespace VisualNovel.Numeric

def twoTo (exponent : Nat) : Nat :=
  Nat.pow 2 exponent

def tenTo (exponent : Nat) : Nat :=
  Nat.pow 10 exponent

/-- What a floating-point number stands for. -/
inductive Exact where
  | nan
  | infinite (negative : Bool)
  | finite (negative : Bool) (mantissa : Nat) (exponent : Int)
  deriving DecidableEq, Repr

def Exact.ofBits (bits : Nat) : Exact :=
  let negative := decide (bits / twoTo 63 % 2 = 1)
  let scale : Nat := bits / twoTo 52 % 2048
  let fraction : Nat := bits % twoTo 52
  if scale = 2047 then if fraction = 0 then .infinite negative else .nan
  else if scale = 0 then .finite negative fraction (-1074)
  else .finite negative (fraction + twoTo 52) ((scale : Int) - 1075)

def Exact.of (number : Float) : Exact :=
  Exact.ofBits number.toBits.toNat

/-- The quotient rounded to the nearest natural number, a tie to the even neighbour. -/
def roundedQuotient (numerator denominator : Nat) : Nat :=
  let below := numerator / denominator
  let rest := numerator % denominator
  if 2 * rest < denominator then below
  else if denominator < 2 * rest then below + 1
  else if below % 2 = 0 then below else below + 1

def scaledQuotient (numerator denominator : Nat) (exponent : Int) : Nat × Nat :=
  if 0 ≤ exponent then (numerator, denominator * twoTo exponent.toNat)
  else (numerator * twoTo (-exponent).toNat, denominator)

/-- The exponent at which a positive quotient has fifty-three binary digits before the point,
or the least exponent there is. -/
def mantissaExponent (numerator denominator : Nat) : Int :=
  let estimate := (numerator.log2 : Int) - denominator.log2 - 52
  let scaled := scaledQuotient numerator denominator estimate
  max (-1074) (if scaled.1 / scaled.2 < twoTo 52 then estimate - 1 else estimate)

def nearestBits (numerator denominator : Nat) : Nat :=
  if numerator = 0 then 0
  else
    let exponent := mantissaExponent numerator denominator
    let scaled := scaledQuotient numerator denominator exponent
    let mantissa := roundedQuotient scaled.1 scaled.2
    let bits :=
      if mantissa < twoTo 52 then mantissa
      else (exponent + 1075).toNat * twoTo 52 + (mantissa - twoTo 52)
    min bits (2047 * twoTo 52)

def nearest (negative : Bool) (numerator denominator : Nat) : Float :=
  let bits := nearestBits numerator denominator
  Float.ofBits (UInt64.ofNat (if negative then bits + twoTo 63 else bits))

def infinity (negative : Bool) : Float :=
  Float.ofBits (if negative then 0xfff0000000000000 else 0x7ff0000000000000)

def notANumber : Float :=
  Float.ofBits 0x7ff8000000000000

/-- The floating-point number nearest to digits times a power of ten. Powers that put the value
outside the range altogether are not computed. -/
def nearestDecimal (negative : Bool) (digits : Nat) (power : Int) : Float :=
  let magnitude := (digits.log2 : Int) * 30103 / 100000 + power
  if digits = 0 then nearest negative 0 1
  else if 310 < magnitude then infinity negative
  else if magnitude < -340 then nearest negative 0 1
  else if 0 ≤ power then nearest negative (digits * tenTo power.toNat) 1
  else nearest negative digits (tenTo (-power).toNat)

def wholePart (mantissa : Nat) (exponent : Int) : Nat :=
  if 0 ≤ exponent then mantissa * twoTo exponent.toNat else mantissa / twoTo (-exponent).toNat

/-- The integer nearest to a natural number times a power of two, a tie to the even one. -/
def roundedPart (mantissa : Nat) (exponent : Int) : Nat :=
  if 0 ≤ exponent then mantissa * twoTo exponent.toNat
  else roundedQuotient mantissa (twoTo (-exponent).toNat)

def ceilingPart (mantissa : Nat) (exponent : Int) : Nat :=
  if 0 ≤ exponent then mantissa * twoTo exponent.toNat
  else
    let unit := twoTo (-exponent).toNat
    (mantissa + (unit - 1)) / unit

/-- The remainder of a number by a positive integer, between zero and it. The remainder of a
number that is not negative is exact. -/
def remainder (number : Float) (modulus : Nat) : Float :=
  match Exact.of number with
  | .finite negative mantissa exponent =>
      let size :=
        if 0 ≤ exponent then nearest false (mantissa * twoTo exponent.toNat % modulus) 1
        else
          let unit := twoTo (-exponent).toNat
          nearest false (mantissa % (modulus * unit)) unit
      if negative && size != 0.0 then nearest false modulus 1 - size else size
  | _ => notANumber

end VisualNovel.Numeric
