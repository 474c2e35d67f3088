import VisualNovel.Text.Hexadecimal
import VisualNovel.Text.Utf8

/-!
# Percent escapes

A percent sign with two hexadecimal digits stands for an octet. A percent sign
without them stands for itself.
-/

set_option autoImplicit false

namespace VisualNovel.Media.Percent

open VisualNovel.Text

def escaped? (high low : UInt8) : Option UInt8 := do
  let high ← hexValue? (Char.ofNat high.toNat)
  let low ← hexValue? (Char.ofNat low.toNat)
  return UInt8.ofNat (high * 16 + low)

def sign : UInt8 := 0x25

def resolve : List UInt8 → List UInt8
  | first :: high :: low :: rest =>
      if first = sign then
        match escaped? high low with
        | some octet => octet :: resolve rest
        | none => first :: resolve (high :: low :: rest)
      else first :: resolve (high :: low :: rest)
  | octets => octets

def toOctets (text : String) : List UInt8 :=
  resolve (Utf8.encode text)

def resolveAscii (characters : List Char) : List Char :=
  (Utf8.decodeLenient (toOctets (String.ofList characters))).toList

/-- Resolves the escapes in a text. Escapes belong together as long as no other character than
those of ASCII comes between them. `run` holds the ASCII characters just before, the latest
first. -/
def resolveRuns (run : List Char) : List Char → List Char
  | [] => resolveAscii run.reverse
  | character :: rest =>
      if character.toNat < 128 then resolveRuns (character :: run) rest
      else resolveAscii run.reverse ++ character :: resolveRuns [] rest

def toText (text : String) : String :=
  String.ofList (resolveRuns [] text.toList)

end VisualNovel.Media.Percent
