import VisualNovel.Files.Tree
import VisualNovel.Window.Geometry

/-!
# Hosts

What a window system knows that the library does not: how large texts are, which
files are fonts, and how large a picture is. The sketching host needs no display:
its letters all have the same width, a font file holds the word for it, and a
picture is described by its width and height.
-/

set_option autoImplicit false

namespace VisualNovel.Window

open VisualNovel.Files VisualNovel.Text

structure Host where
  /-- The size of a text in a font, which is given by its size in pixels. -/
  textSize : Int → String → Size
  /-- The distance of lines in a font. -/
  lineHeight : Int → Int
  /-- Why a font cannot be read from a content, none if it can. -/
  fontFault : List UInt8 → Option String
  /-- The size of the picture that a content holds, or why it holds none. -/
  pictureSize : List UInt8 → Except String Size

namespace Host

def decimal? (octets : List UInt8) : Option Nat :=
  if octets.isEmpty then none
  else
    octets.foldl (fun value octet => do
      let value ← value
      if 48 ≤ octet ∧ octet ≤ 57 then some (value * 10 + (octet.toNat - 48)) else none) (some 0)

/-- The size that a width and a height with a cross between them write. -/
def describedSize? (octets : List UInt8) : Option Size := do
  let width ← decimal? (octets.takeWhile (· ≠ 120))
  let height ← decimal? ((octets.dropWhile (· ≠ 120)).drop 1)
  return ⟨width, height⟩

def sketch : Host where
  textSize pixels text := ⟨text.length * (pixels / 2), pixels + 4⟩
  lineHeight pixels := pixels * 5 / 4
  fontFault octets := if octets = Utf8.encode "font" then none else some "bad font file"
  pictureSize octets :=
    match describedSize? octets with
    | some size => .ok size
    | none => .error "Unsupported image format"

end Host

end VisualNovel.Window
