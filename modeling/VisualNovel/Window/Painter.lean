import VisualNovel.Json.Coercion
import VisualNovel.Media.Reference
import VisualNovel.Novel.Vocabulary
import VisualNovel.Window.Call
import VisualNovel.Window.Host

/-!
# Painters

A painter draws on a canvas of fixed size, which is scaled into the window at the
end. It keeps what is costly to make: fonts, pictures, scaled surfaces and
stand-ins for missing pictures. Drawing is a sequence of calls; it may be broken
off by a reference or a font path that cannot even be looked for, and where a
number is wanted that is not there or out of range.
-/

set_option autoImplicit false

namespace VisualNovel.Window

open VisualNovel.Files VisualNovel.Json VisualNovel.Media VisualNovel.Novel VisualNovel.Numeric

/-- A font. Its size is in pixels. -/
structure Font where
  pixels : Int
  bold : Bool
  deriving DecidableEq, Repr

/-- What tells fonts for themes apart: the file, the family, the size and the weight. -/
structure FontKey where
  path : Option String
  family : FontFamily
  font : Font
  deriving DecidableEq, Repr

inductive Warning where
  | badFont (path reason : String)
  | missingFont (path : String)
  | badImage (url reason : String)
  deriving DecidableEq, Repr

def Warning.message : Warning → String
  | .badFont path reason => s!"Cannot load font {path}: {reason}; using system fonts"
  | .missingFont path => s!"Font file {path} not found; using system fonts"
  | .badImage url reason => "Image " ++ Text.cut 60 url ++ s!" unavailable: {reason}"

inductive Failure where
  | reference (error : OpenError)
  | number (error : CoercionError)
  deriving DecidableEq, Repr

def Failure.message : Failure → String
  | .reference error => error.message
  | .number error => error.message

inductive StandIn where
  | background (label : String)
  | sprite (name : String)
  deriving DecidableEq, Repr

inductive Target where
  | panel
  | choice (id : String)
  | mute
  | close
  | endReplay
  | endClose
  deriving DecidableEq, Repr

/-- How the canvas lies in the window: its scale, and its rectangle. -/
structure Transform where
  scale : Float
  area : Rect

def canvasSize : Size := ⟨1280, 720⟩

/-- The canvas. It is the first surface there is. -/
def canvas : Surface := ⟨0, "canvas", canvasSize⟩

structure Painter where
  host : Host
  tree : Tree
  assets : Option GivenPath := none
  fontPath : Option String := none
  smallFont : Font := ⟨22, false⟩
  bigFont : Font := ⟨64, true⟩
  /-- The size of the window. -/
  screen : Size := canvasSize
  /-- Where the mouse is in the window. -/
  mouse : Point := ⟨0, 0⟩
  /-- The number of surfaces made so far. -/
  surfaces : Nat := 1
  fonts : List (FontKey × Font) := []
  /-- Scaled surfaces, the oldest first. -/
  scaled : List ((Nat × Size) × Surface) := []
  /-- Pictures by reference, none for those that cannot be loaded. -/
  pictures : List (String × Option Surface) := []
  standIns : List (StandIn × Surface) := []
  /-- What can be clicked in the picture drawn last. -/
  targets : List (Target × Rect) := []
  transform : Option Transform := none
  /-- When the cover of the transition was drawn first. -/
  coveredSince : Option Int := none
  /-- The calls that were made, the latest first. -/
  calls : List Call := []
  /-- The reports not yet taken up, the latest first. -/
  warnings : List Warning := []

/-- Drawing. What was drawn stays if it is broken off. -/
abbrev Painting := ExceptT Failure (StateM Painter)

namespace Painter

def call (made : Call) : Painting Unit :=
  modify fun painter => { painter with calls := made :: painter.calls }

/-- A number that is wanted, which breaks drawing off if it is not there. -/
def wanted {α : Type} : Except CoercionError α → Painting α
  | .ok number => return number
  | .error error => throw (.number error)

/-- A number that was computed, which breaks drawing off if it is out of range. -/
def within {α : Type} (number : Except RangeError α) : Painting α :=
  wanted (number.mapError .range)

def warn (warning : Warning) : Painting Unit :=
  modify fun painter => { painter with warnings := warning :: painter.warnings }

def newSurface (label : String) (size : Size) : Painting Surface := do
  let painter ← get
  set { painter with surfaces := painter.surfaces + 1 }
  return ⟨painter.surfaces, label, size⟩

def sheet (size : Size) (color : Color) : Painting Surface := do
  let surface ← newSurface ("surface " ++ size.text) size
  call (.fill surface.label color)
  return surface

def blit (target source : Surface) (corner : Point) : Painting Unit :=
  call (.blit target.label source.label corner)

def fillRect (target : Surface) (color : Rgb) (rect : Rect) (radius : Int) : Painting Unit :=
  call (.rect target.label (.plain color) rect 0 radius)

def render (font : Font) (text : String) (color : Color) : Painting Surface := do
  call (.text text font.pixels color)
  newSurface "text" ((← get).host.textSize font.pixels text)

def blitAround (target source : Surface) (center : Point) : Painting Unit :=
  blit target source (Rect.around center source.size).corner

/-- Notes something that can be clicked. What is noted again keeps its place. -/
def offer (target : Target) (rect : Rect) : Painting Unit :=
  modify fun painter =>
    { painter with
      targets :=
        if painter.targets.any fun entry => entry.1 = target then
          painter.targets.map fun entry => if entry.1 = target then (target, rect) else entry
        else painter.targets ++ [(target, rect)] }

end Painter

end VisualNovel.Window
