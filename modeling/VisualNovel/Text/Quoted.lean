import VisualNovel.Text.Hexadecimal
import VisualNovel.Text.Printable

/-!
# Quoted texts

A text is shown between single quotes, or between double quotes if it holds a
single quote and no double one. The quote in use and the backslash are escaped
by a backslash, line feed, carriage return and tab by a letter, and every
character that is not printable by its code in two, four or eight hexadecimal
digits.
-/

set_option autoImplicit false

namespace VisualNovel.Text

/-- The code of a character in the shortest of the three escape widths that holds it. -/
def escapeCode (code : Nat) : List Char :=
  if code < 0x100 then '\\' :: 'x' :: hexDigits 2 code
  else if code < 0x10000 then '\\' :: 'u' :: hexDigits 4 code
  else '\\' :: 'U' :: hexDigits 8 code

def escapeCharacter (quote character : Char) : List Char :=
  if character = quote ∨ character = '\\' then ['\\', character]
  else if character = '\n' then ['\\', 'n']
  else if character = '\r' then ['\\', 'r']
  else if character = '\t' then ['\\', 't']
  else if ' ' ≤ character ∧ character ≤ '~' then [character]
  else if isPrintable character then [character]
  else escapeCode character.toNat

def quoteFor (characters : List Char) : Char :=
  if characters.contains '\'' && !characters.contains '"' then '"' else '\''

def quoted (text : String) : String :=
  let quote := quoteFor text.toList
  String.ofList (quote :: text.toList.flatMap (escapeCharacter quote) ++ [quote])

end VisualNovel.Text
