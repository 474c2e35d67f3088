import VisualNovel.Novel.Basic
import VisualNovel.Window.Painter

/-!
# Fonts

A font is read from a file if one is given. Where there is none, or none that can
be read, the system is asked for a font of the family. Fonts for themes are made
once.
-/

set_option autoImplicit false

namespace VisualNovel.Window

open VisualNovel.Files VisualNovel.Json VisualNovel.Novel

/-- The names by which the system is asked for a family, the best first. -/
def systemNames : FontFamily → List String
  | .sans => ["Inter", "Helvetica Neue", "Arial", "DejaVu Sans", "Noto Sans"]
  | .serif => ["Georgia", "Times New Roman", "DejaVu Serif", "Noto Serif"]
  | .mono => ["JetBrains Mono", "Consolas", "Menlo", "DejaVu Sans Mono"]
  | .handwritten => ["Comic Sans MS", "Segoe Print", "Bradley Hand", "URW Chancery L"]
  | .retro => ["Press Start 2P", "Courier New", "Courier", "FreeMono"]
  | .futuristic => ["Orbitron", "Eurostile", "Bank Gothic", "DejaVu Sans"]
  | .readable => ["Atkinson Hyperlegible", "Verdana", "Tahoma", "DejaVu Sans"]

def sizeInPixels : FontSize → Int
  | .small => 24
  | .medium => 30
  | .large => 38

namespace Painter

def systemFont (family : FontFamily) (font : Font) : Painting Font := do
  call (.systemFont (systemNames family) font.pixels font.bold)
  return font

def fontFromFile (path : Path) (family : FontFamily) (font : Font) : Painting Font := do
  let painter ← get
  call (.font path.toString font.pixels)
  let fault :=
    match painter.tree.read path with
    | .error error => some error.message
    | .ok content => painter.host.fontFault content
  match fault with
  | none => return font
  | some reason => do
      warn (.badFont path.toString reason)
      systemFont family font

def makeFont (path : Option String) (family : FontFamily) (font : Font) : Painting Font := do
  match named? path with
  | none => systemFont family font
  | some text =>
      let path := Path.ofString text
      match (← get).tree.exists path with
      | .error error => throw (.reference (.file error))
      | .ok true => fontFromFile path family font
      | .ok false => do
          warn (.missingFont path.toString)
          systemFont family font

/-- The font of a theme with its size multiplied by what a value stands for. -/
def themeFont (theme : Theme) (path : Option String) (factor : Value) (bold : Bool) :
    Painting Font := do
  let family := theme.fontFamily.getD .sans
  let pixels := max 8 (← wanted (factor.times (sizeInPixels (theme.fontSize.getD .medium))))
  let key : FontKey := ⟨path, family, ⟨pixels, bold⟩⟩
  match (← get).fonts.lookup key with
  | some font => return font
  | none => do
      let font ← makeFont path family ⟨pixels, bold⟩
      modify fun painter => { painter with fonts := (key, font) :: painter.fonts }
      return font

def forgetFonts (painter : Painter) : Painter :=
  { painter with fonts := [] }

end Painter

end VisualNovel.Window
