import VisualNovel.Json.Value
import VisualNovel.Numeric.Numeral
import VisualNovel.Text.Hexadecimal

/-!
# Reading data values from text

A reader takes a value off the front of the characters and returns it with the
rest. It stops at the first fault and says what it expected there. The words for
infinity and for no number are accepted, and of two entries with one key the
later value counts. Values are nested at most a fixed number of levels deep, and
integers have a limited number of digits.
-/

set_option autoImplicit false

namespace VisualNovel.Json

open VisualNovel.Text VisualNovel.Numeric

/-- What is wrong with a text that holds no value. -/
inductive Fault where
  | byteOrderMark
  | expectingValue
  | expectingPropertyName
  | expectingColon
  | expectingComma
  | extraData
  | unterminatedString
  | controlCharacter
  | badEscape
  | badCodeEscape
  deriving DecidableEq, Repr

def Fault.message : Fault → String
  | .byteOrderMark => "Unexpected UTF-8 BOM (decode using utf-8-sig)"
  | .expectingValue => "Expecting value"
  | .expectingPropertyName => "Expecting property name enclosed in double quotes"
  | .expectingColon => "Expecting ':' delimiter"
  | .expectingComma => "Expecting ',' delimiter"
  | .extraData => "Extra data"
  | .unterminatedString => "Unterminated string starting at"
  | .controlCharacter => "Invalid control character at"
  | .badEscape => "Invalid \\escape"
  | .badCodeEscape => "Invalid \\uXXXX escape"

/-- A limit that a text exceeds. -/
inductive Limit where
  | listNesting
  | objectNesting
  | integerDigits (count : Nat)
  deriving DecidableEq, Repr

/-- Why reading stopped. A fault carries what was left of the text where it was found. -/
inductive Stop where
  | fault (reason : Fault) (rest : List Char)
  | limit (exceeded : Limit)
  deriving DecidableEq, Repr

abbrev Taken (α : Type) := α × List Char

def stopAt {α : Type} (reason : Fault) (rest : List Char) : Except Stop α :=
  .error (.fault reason rest)

def isSpace (character : Char) : Bool :=
  character = ' ' || character = '\t' || character = '\n' || character = '\r'

def skipSpace (characters : List Char) : List Char :=
  characters.dropWhile isSpace

def afterWord? : List Char → List Char → Option (List Char)
  | [], characters => some characters
  | _ :: _, [] => none
  | expected :: word, character :: rest =>
      if expected = character then afterWord? word rest else none

def escapedCharacter? : Char → Option Char
  | '"' => some '"'
  | '\\' => some '\\'
  | '/' => some '/'
  | 'b' => some '\x08'
  | 'f' => some '\x0c'
  | 'n' => some '\n'
  | 'r' => some '\r'
  | 't' => some '\t'
  | _ => none

/-- The code written by the four characters in front, which must not be the last of the text. -/
def codeUnit? (characters : List Char) : Option Nat :=
  if characters.length ≤ 4 then none else hexNumber? (characters.take 4)

/-- The second half of a surrogate pair, if an escape with it comes next: none on a fault in that
escape, zero if the next characters are no such escape. -/
def lowHalf? (characters : List Char) : Option Nat :=
  match characters with
  | '\\' :: 'u' :: digits => if digits.length ≤ 4 then some 0 else codeUnit? digits
  | _ => some 0

def isHighHalf (code : Nat) : Bool := 0xd800 ≤ code && code ≤ 0xdbff

def isLowHalf (code : Nat) : Bool := 0xdc00 ≤ code && code ≤ 0xdfff

/-- The character of a code, the replacement character for half of a surrogate pair. -/
def characterOfCode (code : Nat) : Char :=
  if isHighHalf code || isLowHalf code then '\ufffd' else Char.ofNat code

/-- Reads a string after its opening quote. `opening` is the text from that quote on, `read` what
was read so far, newest first. A half of a surrogate pair without the other is no character: it is
read as U+FFFD, where a reader whose texts can hold such halves would keep it. -/
def readString (opening : List Char) (read : List Char) (characters : List Char) :
    Except Stop (Taken String) :=
  match characters with
  | [] => stopAt .unterminatedString opening
  | '"' :: rest => .ok (String.ofList read.reverse, rest)
  | '\\' :: 'u' :: digits =>
      match codeUnit? digits with
      | none => stopAt .badCodeEscape ('u' :: digits)
      | some code =>
          let rest := digits.drop 4
          if isHighHalf code then
            match lowHalf? rest with
            | none => stopAt .badCodeEscape (rest.drop 1)
            | some low =>
                if isLowHalf low then
                  let joined := 0x10000 + (code - 0xd800) * 0x400 + (low - 0xdc00)
                  readString opening (Char.ofNat joined :: read) (rest.drop 6)
                else readString opening (characterOfCode code :: read) rest
          else readString opening (characterOfCode code :: read) rest
  | ['\\'] => stopAt .unterminatedString opening
  | '\\' :: escape :: rest =>
      match escapedCharacter? escape with
      | some character => readString opening (character :: read) rest
      | none => stopAt .badEscape ('\\' :: escape :: rest)
  | character :: rest =>
      if character ≤ '\x1f' then stopAt .controlCharacter (character :: rest)
      else readString opening (character :: read) rest
termination_by characters.length
decreasing_by all_goals simp_all; try omega

def fractionOf (characters : List Char) : List Char :=
  match characters with
  | '.' :: rest =>
      let digits := rest.takeWhile Char.isDigit
      if digits.isEmpty then [] else '.' :: digits
  | _ => []

def exponentOf (characters : List Char) : List Char :=
  match characters with
  | mark :: rest =>
      if mark = 'e' ∨ mark = 'E' then
        let sign := (rest.take 1).filter fun character => character = '+' || character = '-'
        let digits := (rest.drop sign.length).takeWhile Char.isDigit
        if digits.isEmpty then [] else mark :: sign ++ digits
      else []
  | [] => []

/-- The digits of a whole number: a zero alone, or digits that begin with another. -/
def wholeOf (characters : List Char) : List Char :=
  match characters with
  | '0' :: _ => ['0']
  | _ => characters.takeWhile Char.isDigit

def readNumber? (characters : List Char) : Option (Except Stop (Taken Value)) :=
  let body := if characters.head? = some '-' then characters.drop 1 else characters
  let negative := decide (characters.head? = some '-')
  let whole := wholeOf body
  if whole.isEmpty then none
  else
    let afterWhole := body.drop whole.length
    let fraction := fractionOf afterWhole
    let afterFraction := afterWhole.drop fraction.length
    let exponent := exponentOf afterFraction
    let rest := afterFraction.drop exponent.length
    if fraction.isEmpty && exponent.isEmpty then
      if integerDigitLimit < whole.length then
        some (.error (.limit (.integerDigits whole.length)))
      else
        let size := valueOfDigits (spanDigits whole).1
        some (.ok (.integer (if negative then -(size : Int) else size), rest))
    else
      (readUnsigned? negative (whole ++ fraction ++ exponent)).map fun number =>
        .ok (.number number, rest)

def words : List (String × Value) :=
  [("null", .null), ("true", .bool true), ("false", .bool false), ("NaN", .number notANumber),
    ("Infinity", .number (infinity false)), ("-Infinity", .number (infinity true))]

def readScalar (characters : List Char) : Except Stop (Taken Value) :=
  match words.findSome? fun (word, value) =>
      (afterWord? word.toList characters).map fun rest => (value, rest) with
  | some result => .ok result
  | none =>
      match readNumber? characters with
      | some result => result
      | none => stopAt .expectingValue characters

/-- Reads the items of a list after the opening bracket and white space, given how one is read.
The count bounds the number of items. -/
def readItems (item : List Char → Except Stop (Taken Value)) :
    Nat → List Value → List Char → Except Stop (Taken Value)
  | 0, _, characters => stopAt .expectingValue characters
  | count + 1, items, characters => do
      let (value, rest) ← item characters
      match skipSpace rest with
      | ']' :: rest => return (.list (value :: items).reverse, rest)
      | ',' :: rest => readItems item count (value :: items) (skipSpace rest)
      | rest => stopAt .expectingComma rest

/-- Reads the entries of an object after the opening brace and white space, given how a value is
read. The count bounds the number of entries. -/
def readEntries (item : List Char → Except Stop (Taken Value)) :
    Nat → Entries → List Char → Except Stop (Taken Value)
  | 0, _, characters => stopAt .expectingPropertyName characters
  | count + 1, entries, characters =>
      match characters with
      | '"' :: rest => do
          let (key, rest) ← readString characters [] rest
          match skipSpace rest with
          | ':' :: rest => do
              let (value, rest) ← item (skipSpace rest)
              let entries := entries.insert key value
              match skipSpace rest with
              | '\x7d' :: rest => return (.object entries, rest)
              | ',' :: rest => readEntries item count entries (skipSpace rest)
              | rest => stopAt .expectingComma rest
          | rest => stopAt .expectingColon rest
      | _ => stopAt .expectingPropertyName characters

def readValue (levels : Nat) (characters : List Char) : Except Stop (Taken Value) :=
  match levels, characters with
  | _, '"' :: rest => do
      let (text, rest) ← readString characters [] rest
      return (.text text, rest)
  | 0, '[' :: _ => .error (.limit .listNesting)
  | 0, '\x7b' :: _ => .error (.limit .objectNesting)
  | levels + 1, '[' :: rest =>
      match skipSpace rest with
      | ']' :: rest => .ok (.list [], rest)
      | rest => readItems (fun characters => readValue levels characters) (rest.length + 1) [] rest
  | levels + 1, '\x7b' :: rest =>
      match skipSpace rest with
      | '\x7d' :: rest => .ok (.object [], rest)
      | rest =>
          readEntries (fun characters => readValue levels characters) (rest.length + 1) [] rest
  | _, characters => readScalar characters

/-- How deep lists and objects may be nested. There is room for 989 to 992 levels, by how much of it
the callers of the reader take up; one bound is fixed here for all of them. -/
def nestingLimit : Nat := 990

/-- Reads a text that holds one value and white space around it. -/
def readDocument (characters : List Char) : Except Stop Value :=
  match characters with
  | '\ufeff' :: _ => stopAt .byteOrderMark characters
  | _ => do
      let (value, rest) ← readValue nestingLimit (skipSpace characters)
      match skipSpace rest with
      | [] => return value
      | rest => stopAt .extraData rest

inductive Error where
  | malformed (reason : Fault) (position line column : Nat)
  | limit (exceeded : Limit)
  deriving DecidableEq, Repr

/-- The error for a stop within a text. Lines and columns count from one. -/
def Stop.within (text : List Char) : Stop → Error
  | .limit exceeded => .limit exceeded
  | .fault reason rest =>
      let before := text.take (text.length - rest.length)
      .malformed reason before.length (before.count '\n' + 1)
        ((before.reverse.takeWhile (· ≠ '\n')).length + 1)

def Limit.message : Limit → String
  | .listNesting =>
      "maximum recursion depth exceeded while decoding a JSON array from a unicode string"
  | .objectNesting =>
      "maximum recursion depth exceeded while decoding a JSON object from a unicode string"
  | .integerDigits count => (NumeralError.tooManyDigits count).message ""

def Error.message : Error → String
  | .malformed reason position line column =>
      s!"{reason.message}: line {line} column {column} (char {position})"
  | .limit exceeded => exceeded.message

def read (text : String) : Except Error Value :=
  (readDocument text.toList).mapError (Stop.within text.toList)

end VisualNovel.Json
