import VisualNovel.Json.Value
import VisualNovel.Numeric.Spelling
import VisualNovel.Text.Hexadecimal

/-!
# Writing values to text

A value is written on one line, or in the indented form of a settings file: every
item and entry on a line of its own, two spaces further in than what holds it.
Only quotes, backslashes and control characters are escaped.
-/

set_option autoImplicit false

namespace VisualNovel.Json

open VisualNovel.Numeric VisualNovel.Text

def writtenCharacter (character : Char) : List Char :=
  if character = '"' then ['\\', '"']
  else if character = '\\' then ['\\', '\\']
  else if character = '\n' then ['\\', 'n']
  else if character = '\r' then ['\\', 'r']
  else if character = '\t' then ['\\', 't']
  else if character = '\x08' then ['\\', 'b']
  else if character = '\x0c' then ['\\', 'f']
  else if character < ' ' then '\\' :: 'u' :: hexDigits 4 character.toNat
  else [character]

def writtenText (text : String) : String :=
  String.ofList ('"' :: text.toList.flatMap writtenCharacter ++ ['"'])

def newLine (level : Nat) : String :=
  String.ofList ('\n' :: List.replicate (2 * level) ' ')

def writtenBlock (level : Nat) (opening closing : String) (parts : List String) : String :=
  match parts with
  | [] => opening ++ closing
  | _ =>
      opening ++ newLine (level + 1) ++ ("," ++ newLine (level + 1)).intercalate parts ++
        newLine level ++ closing

mutual

def Value.writeAt (level : Nat) : Value → String
  | .null => "null"
  | .bool value => if value then "true" else "false"
  | .integer value => toString value
  | .number value => fileSpelling.write value
  | .text value => writtenText value
  | .list items => writtenBlock level "[" "]" (writeItems (level + 1) items)
  | .object entries => writtenBlock level "\x7b" "\x7d" (writeEntries (level + 1) entries)

def writeItems (level : Nat) : List Value → List String
  | [] => []
  | item :: items => item.writeAt level :: writeItems level items

def writeEntries (level : Nat) : List (String × Value) → List String
  | [] => []
  | (key, value) :: entries =>
      (writtenText key ++ ": " ++ value.writeAt level) :: writeEntries level entries

end

def Value.write (value : Value) : String :=
  value.writeAt 0

mutual

def Value.compact : Value → String
  | .null => "null"
  | .bool value => if value then "true" else "false"
  | .integer value => toString value
  | .number value => fileSpelling.write value
  | .text value => writtenText value
  | .list items => "[" ++ ",".intercalate (compactItems items) ++ "]"
  | .object entries => "\x7b" ++ ",".intercalate (compactEntries entries) ++ "\x7d"

def compactItems : List Value → List String
  | [] => []
  | item :: items => item.compact :: compactItems items

def compactEntries : List (String × Value) → List String
  | [] => []
  | (key, value) :: entries => (writtenText key ++ ":" ++ value.compact) :: compactEntries entries

end

end VisualNovel.Json
