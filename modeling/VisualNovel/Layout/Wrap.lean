import VisualNovel.Text.Blank
import VisualNovel.Text.Split

/-!
# Wrapping of lines

A text is laid out in lines that are slices of it, so that a count of revealed
characters carries over to the lines and nothing moves while a text is being
revealed. Paragraphs end at line feeds. A paragraph with a character of a script
that is written without spaces is broken between any two characters, any other
paragraph between words only. A word wider than the line has a line of its own.
-/

set_option autoImplicit false

namespace VisualNovel.Layout

open VisualNovel.Text

/-- A slice of a text: the position of its first character and the position after its last. -/
structure Span where
  start : Nat
  stop : Nat
  deriving DecidableEq, Repr

def slice (text : List Char) (span : Span) : List Char :=
  (text.drop span.start).take (span.stop - span.start)

/-- Whether a character belongs to a script that is written without spaces: kana, Han, Hangul and
the full-width forms. -/
def isUnspaced (character : Char) : Bool :=
  let code := character.toNat
  (0x3040 ≤ code && code ≤ 0x30ff) || (0x3400 ≤ code && code ≤ 0x4dbf) ||
    (0x4e00 ≤ code && code ≤ 0x9fff) || (0xac00 ≤ code && code ≤ 0xd7af) ||
    (0xff00 ≤ code && code ≤ 0xffef)

/-- Breaks a stretch of a text between characters. The line begun starts at `start`; the
characters still to come start at `position`. -/
def breakCharacters (fits : Span → Bool) (start position : Nat) : List Char → List Span
  | [] => if start < position then [⟨start, position⟩] else []
  | _ :: rest =>
      if start < position && !fits ⟨start, position + 1⟩ then
        ⟨start, position⟩ :: breakCharacters fits position (position + 1) rest
      else breakCharacters fits start (position + 1) rest

/-- The words of characters that start at a position, the word begun starting at `start?`. -/
def wordSpans (start? : Option Nat) (position : Nat) : List Char → List Span
  | [] =>
      match start? with
      | some start => [⟨start, position⟩]
      | none => []
  | character :: rest =>
      match isBlank character, start? with
      | true, some start => ⟨start, position⟩ :: wordSpans none (position + 1) rest
      | true, none => wordSpans none (position + 1) rest
      | false, some start => wordSpans (some start) (position + 1) rest
      | false, none => wordSpans (some position) (position + 1) rest

/-- Puts words into lines, given the line begun. -/
def joinWords (fits : Span → Bool) (line : Span) : List Span → List Span
  | [] => [line]
  | word :: words =>
      if fits ⟨line.start, word.stop⟩ then joinWords fits ⟨line.start, word.stop⟩ words
      else line :: joinWords fits word words

/-- The lines of a paragraph that starts at a position. A blank paragraph is one empty line. -/
def wrapParagraph (fits : Span → Bool) (start : Nat) (paragraph : List Char) : List Span :=
  if paragraph.all isBlank then [⟨start, start⟩]
  else if paragraph.any isUnspaced then breakCharacters fits start start paragraph
  else
    match wordSpans none start paragraph with
    | [] => []
    | word :: words => joinWords fits word words

def wrapParagraphs (fits : Span → Bool) (start : Nat) : List (List Char) → List Span
  | [] => []
  | paragraph :: others =>
      wrapParagraph fits start paragraph ++
        wrapParagraphs fits (start + paragraph.length + 1) others

/-- Wraps a text so that its lines are at most a width wide by a measure, as slices of it. -/
def wrapSpans (text : List Char) (measure : List Char → Int) (width : Int) : List Span :=
  wrapParagraphs (fun span => measure (slice text span) ≤ width) 0
    (pieces '\n' text)

/-- Wraps a text into lines. -/
def wrapLines (text : List Char) (measure : List Char → Int) (width : Int) :
    List (List Char) :=
  (wrapSpans text measure width).map (slice text)

/-- Whether a line has something to show when the given number of characters is revealed: an
empty line when the text before it is, any other with its first character. -/
def Span.isReached (span : Span) (revealed : Int) : Bool :=
  decide ((span.start : Int) ≤ revealed) &&
    !(decide (revealed = span.start) && decide (span.start < span.stop))

/-- The visible part of each line when the given number of characters is revealed. -/
def revealedLines (text : List Char) (spans : List Span) (revealed : Int) : List (List Char) :=
  (spans.takeWhile fun span => span.isReached revealed).map fun span =>
    slice text ⟨span.start, min span.stop revealed.toNat⟩

end VisualNovel.Layout
