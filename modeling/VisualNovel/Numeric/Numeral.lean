import VisualNovel.Text.Blank
import VisualNovel.Text.Digit
import VisualNovel.Text.Name
import VisualNovel.Text.Quoted
import VisualNovel.Numeric.Binary64

/-!
# Numerals

Reading numbers from texts that people typed. White space around a numeral is
ignored, digits may be of any script, and a single underscore may stand between
two digits. Integers are in base ten and hold at most 4300 digits. Other numbers
have an optional point and exponent, or are one of the words for infinity and
for no number.
-/

set_option autoImplicit false

namespace VisualNovel.Numeric

open VisualNovel.Text

def integerDigitLimit : Nat := 4300

inductive NumeralError where
  | malformed
  | tooManyDigits (count : Nat)
  deriving DecidableEq, Repr

/-- The words for a text that is no integer numeral. Of a long text only the beginning is shown. -/
def NumeralError.message (text : String) : NumeralError → String
  | .malformed => "invalid literal for int() with base 10: " ++ cut 200 (quoted text)
  | .tooManyDigits count =>
      s!"Exceeds the limit ({integerDigitLimit} digits) for integer string conversion: value " ++
        s!"has {count} digits; use sys.set_int_max_str_digits() to increase the limit"

/-- White space around numerals. The control separators do not count here. -/
def isNumeralBlank (character : Char) : Bool :=
  isBlank character && !(0x1c ≤ character.toNat && character.toNat ≤ 0x1f)

def valueOfDigits (digits : List Nat) : Nat :=
  digits.foldl (fun value digit => value * 10 + digit) 0

/-- Splits a sign off. The flag tells whether it was a minus. -/
def splitSign : List Char → Bool × List Char
  | '-' :: rest => (true, rest)
  | '+' :: rest => (false, rest)
  | characters => (false, characters)

theorem splitSign_of_unsigned {characters : List Char} (noMinus : characters.head? ≠ some '-')
    (noPlus : characters.head? ≠ some '+') : splitSign characters = (false, characters) := by
  unfold splitSign
  split
  · exact absurd rfl noMinus
  · exact absurd rfl noPlus
  · rfl

/-- The digits of a run of digits and underscores, where every underscore stands between two
digits. The flag tells whether a digit came just before. -/
def ungroup? : Bool → List Char → Option (List Nat)
  | afterDigit, [] => if afterDigit then some [] else none
  | afterDigit, '_' :: rest => if afterDigit then ungroup? false rest else none
  | _, character :: rest => do
      let digit ← digitValue? character
      return digit :: (← ungroup? true rest)

def isGrouped (character : Char) : Bool :=
  character = '_' || (digitValue? character).isSome

def readInteger (text : String) : Except NumeralError Int :=
  let (negative, body) := splitSign (trimBoth isNumeralBlank text.toList)
  match ungroup? false (body.takeWhile isGrouped) with
  | none => .error .malformed
  | some digits =>
      if integerDigitLimit < digits.length then .error (.tooManyDigits digits.length)
      else if body.dropWhile isGrouped ≠ [] then .error .malformed
      else if negative then .ok (-(valueOfDigits digits : Int))
      else .ok (valueOfDigits digits)

def plainDigit (character : Char) : Char :=
  match digitValue? character with
  | some digit => Char.ofNat ('0'.toNat + digit)
  | none => character

/-- Removes the underscores between digits, none if one stands elsewhere. -/
def withoutUnderscores? : Bool → List Char → Option (List Char)
  | _, [] => some []
  | afterDigit, '_' :: rest =>
      match rest with
      | character :: _ =>
          if afterDigit && character.isDigit then withoutUnderscores? false rest else none
      | [] => none
  | _, character :: rest =>
      (withoutUnderscores? character.isDigit rest).map (character :: ·)

def spanDigits (characters : List Char) : List Nat × List Char :=
  ((characters.takeWhile Char.isDigit).map fun digit => digit.toNat - '0'.toNat,
    characters.dropWhile Char.isDigit)

def spanFraction : List Char → List Nat × List Char
  | '.' :: rest => spanDigits rest
  | characters => ([], characters)

/-- The exponent that ends a numeral: none if the characters are no exponent, zero if there are
no characters. -/
def readExponent? : List Char → Option Int
  | [] => some 0
  | mark :: rest =>
      if mark = 'e' ∨ mark = 'E' then
        let (negative, body) := splitSign rest
        let (digits, rest) := spanDigits body
        if digits.isEmpty || !rest.isEmpty then none
        else if negative then some (-(valueOfDigits digits : Int))
        else some (valueOfDigits digits)
      else none

def readUnsigned? (negative : Bool) (characters : List Char) : Option Float :=
  let word := String.ofList (characters.map Char.toLower)
  if word = "inf" ∨ word = "infinity" then some (infinity negative)
  else if word = "nan" then some notANumber
  else
    let (whole, rest) := spanDigits characters
    let (fraction, rest) := spanFraction rest
    if whole.isEmpty && fraction.isEmpty then none
    else
      (readExponent? rest).map fun exponent =>
        nearestDecimal negative (valueOfDigits (whole ++ fraction)) (exponent - fraction.length)

/-- Reads a numeral as the nearest floating-point number. -/
def readFloat? (text : String) : Option Float := do
  let plain ← withoutUnderscores? false ((trimBoth isNumeralBlank text.toList).map plainDigit)
  let (negative, body) := splitSign plain
  readUnsigned? negative body

end VisualNovel.Numeric
