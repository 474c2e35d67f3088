import VisualNovel.Numeric.Shortest

/-!
# Spelling of floating-point numbers

How the digits of a number are set: positionally with a point while the leading
digit is not too far from it, otherwise with one digit before the point and a
signed exponent.
-/

set_option autoImplicit false

namespace VisualNovel.Numeric

structure Spelling where
  /-- The least power of ten of the leading digit that is written positionally. -/
  leastPositional : Int
  /-- The first power of ten of the leading digit that is not. -/
  firstScientific : Int
  /-- The least number of digits of an exponent. -/
  exponentWidth : Nat
  notANumber : String
  infinity : String

def digitsOf (number : Nat) : List Char :=
  (toString number).toList

/-- An exponent with its sign and at least the given number of digits. -/
def exponentDigits (width : Nat) (exponent : Int) : List Char :=
  let digits := digitsOf exponent.natAbs
  (if exponent < 0 then '-' else '+') :: List.replicate (width - digits.length) '0' ++ digits

def Spelling.decimal (spelling : Spelling) (decimal : Decimal) : List Char :=
  let digits := digitsOf decimal.digits
  let leading := decimal.power + digits.length - 1
  if spelling.leastPositional ≤ leading ∧ leading < spelling.firstScientific then
    if 0 ≤ decimal.power then
      digits ++ List.replicate decimal.power.toNat '0' ++ ['.', '0']
    else if leading < 0 then
      '0' :: '.' :: List.replicate (-leading - 1).toNat '0' ++ digits
    else
      digits.take (leading.toNat + 1) ++ '.' :: digits.drop (leading.toNat + 1)
  else
    digits.take 1 ++ (if digits.length = 1 then [] else '.' :: digits.drop 1) ++
      'e' :: exponentDigits spelling.exponentWidth leading

def Spelling.write (spelling : Spelling) (number : Float) : String :=
  match Exact.of number with
  | .nan => spelling.notANumber
  | .infinite negative => (if negative then "-" else "") ++ spelling.infinity
  | .finite negative mantissa exponent =>
      (if negative then "-" else "") ++
        (if mantissa = 0 then "0.0"
          else String.ofList (spelling.decimal (shortest mantissa exponent)))

def shownSpelling : Spelling := ⟨-4, 16, 2, "nan", "inf"⟩

def fileSpelling : Spelling := ⟨-4, 16, 2, "NaN", "Infinity"⟩

end VisualNovel.Numeric
