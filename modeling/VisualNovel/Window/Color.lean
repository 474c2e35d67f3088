import VisualNovel.Numeric.Numeral
import VisualNovel.Text.Hexadecimal

/-!
# Colors

A document writes a color as three or six hexadecimal digits after number signs.
With three, each stands for two. Every pair is read as a numeral, so that one of
its two places may also be a sign or blank. Whatever cannot be read thus is some
other color given beforehand.
-/

set_option autoImplicit false

namespace VisualNovel.Window

open VisualNovel.Numeric VisualNovel.Text

structure Rgb where
  red : Int
  green : Int
  blue : Int
  deriving DecidableEq, Repr

inductive Color where
  | plain (color : Rgb)
  /-- A color that lets through what is below it, except for the given part of 255. -/
  | veil (color : Rgb) (alpha : Int)
  /-- The bright color at an angle of the color circle. -/
  | hue (angle : Float)

namespace Rgb

def white : Rgb := ⟨255, 255, 255⟩

def black : Rgb := ⟨0, 0, 0⟩

/-- The value of a hexadecimal digit, decimal digits being those of any script. -/
def digit? (character : Char) : Option Nat :=
  (digitValue? character).or (hexValue? character)

def part? (first second : Char) : Option Int :=
  let (negative, digits) := splitSign (trimBoth isNumeralBlank [first, second])
  match digits.mapM digit? with
  | none | some [] => none
  | some digits =>
      let value : Nat := digits.foldl (fun value digit => value * 16 + digit) 0
      some (if negative then -(value : Int) else value)

def ofPairs? : List Char → Option Rgb
  | [red, red', green, green', blue, blue'] => do
      return ⟨← part? red red', ← part? green green', ← part? blue blue'⟩
  | _ => none

def lengthened : List Char → List Char
  | [red, green, blue] => [red, red, green, green, blue, blue]
  | characters => characters

/-- The color that a text stands for, another one if it stands for none. -/
def parse (text : Option String) (fallback : Rgb) : Rgb :=
  let characters := (trimBoth isBlank ((text.getD "").toList)).dropWhile (· = '#')
  (ofPairs? (lengthened characters)).getD fallback

end Rgb

end VisualNovel.Window
