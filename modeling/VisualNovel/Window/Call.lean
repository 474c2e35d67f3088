import VisualNovel.Window.Color
import VisualNovel.Window.Geometry

/-!
# Calls to a window system

What a picture on the screen is made of: the calls by which surfaces are filled,
scaled and put on each other, texts are rendered, and fonts and pictures loaded.
-/

set_option autoImplicit false

namespace VisualNovel.Window

/-- Something that is drawn on or drawn. Its number tells it from others that look alike. -/
structure Surface where
  number : Nat
  label : String
  size : Size
  deriving DecidableEq, Repr

def Size.text (size : Size) : String :=
  s!"{size.width}x{size.height}"

/-- A call. Surfaces are named by their labels. -/
inductive Call where
  | init
  | setMode (size : Size)
  | caption (title : String)
  | fill (target : String) (color : Color)
  | blit (target source : String) (corner : Point)
  | alpha (target : String) (alpha : Int)
  /-- A rectangle: its border, or all of it for a border of width zero. -/
  | rect (target : String) (color : Color) (rect : Rect) (border radius : Int)
  | line (target : String) (color : Color) (first last : Point) (width : Int)
  | scale (source : String) (size : Size)
  | text (text : String) (pixels : Int) (color : Color)
  | font (path : String) (pixels : Int)
  | systemFont (names : List String) (pixels : Int) (bold : Bool)
  | load (source hint : String)
  | flip
  | tick (rate : Int)
  | quit

end VisualNovel.Window
