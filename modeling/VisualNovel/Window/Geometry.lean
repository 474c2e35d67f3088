import VisualNovel.Numeric.Range

/-!
# Places on a canvas

Points, sizes and rectangles in whole pixels, and how a picture is fitted into a
canvas: scaled by one factor so that it covers the canvas or is contained in it,
or stretched, and then anchored at the middle or at an edge.
-/

set_option autoImplicit false

namespace VisualNovel.Window

open VisualNovel.Numeric

structure Point where
  x : Int
  y : Int
  deriving DecidableEq, Repr

structure Size where
  width : Int
  height : Int
  deriving DecidableEq, Repr

structure Rect where
  x : Int
  y : Int
  width : Int
  height : Int
  deriving DecidableEq, Repr

namespace Rect

def corner (rect : Rect) : Point :=
  ⟨rect.x, rect.y⟩

def size (rect : Rect) : Size :=
  ⟨rect.width, rect.height⟩

def right (rect : Rect) : Int :=
  rect.x + rect.width

def bottom (rect : Rect) : Int :=
  rect.y + rect.height

def center (rect : Rect) : Point :=
  ⟨rect.x + rect.width / 2, rect.y + rect.height / 2⟩

def around (center : Point) (size : Size) : Rect :=
  ⟨center.x - size.width / 2, center.y - size.height / 2, size.width, size.height⟩

/-- Whether a place is in a rectangle. The edges at the right and below are not part of it. -/
def contains (rect : Rect) (point : Point) : Bool :=
  decide (rect.x ≤ point.x) && decide (point.x < rect.right) && decide (rect.y ≤ point.y) &&
    decide (point.y < rect.bottom)

end Rect

def scaledLength (length : Int) (factor : Float) : Except RangeError Int := do
  integerPart ((← floatOfInteger length) * factor)

def roundedLength (length : Int) (factor : Float) : Except RangeError Int := do
  rounded ((← floatOfInteger length) * factor)

inductive Fit where
  | cover
  | contain
  | stretch
  deriving DecidableEq, Repr

def Fit.ofStyle (style : String) : Fit :=
  if style = "100% 100%" then .stretch else if style = "contain" then .contain else .cover

/-- The size of a picture that is to fill a canvas. A picture without extent is stretched. -/
def fitSize (source target : Size) (fit : Fit) : Except RangeError Size :=
  if source.width ≤ 0 ∨ source.height ≤ 0 ∨ fit = .stretch then .ok target
  else do
    let across ← ratio target.width source.width
    let down ← ratio target.height source.height
    let factor :=
      match fit with
      | .contain => if down < across then down else across
      | _ => if across < down then down else across
    return ⟨max 1 (← roundedLength source.width factor),
      max 1 (← roundedLength source.height factor)⟩

inductive Anchor where
  | middle
  | left
  | right
  | top
  | bottom
  deriving DecidableEq, Repr

/-- The anchor that a word names, the middle for all other words. -/
def Anchor.ofWord (word : String) : Anchor :=
  match word with
  | "left" => .left
  | "right" => .right
  | "top" => .top
  | "bottom" => .bottom
  | _ => .middle

def place (source target : Size) (anchor : Anchor) : Point :=
  let x := (target.width - source.width) / 2
  let y := (target.height - source.height) / 2
  match anchor with
  | .middle => ⟨x, y⟩
  | .left => ⟨0, y⟩
  | .right => ⟨target.width - source.width, y⟩
  | .top => ⟨x, 0⟩
  | .bottom => ⟨x, target.height - source.height⟩

end VisualNovel.Window
