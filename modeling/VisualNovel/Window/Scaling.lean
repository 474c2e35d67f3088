import VisualNovel.Window.Painter

/-!
# Scaled surfaces

A surface is scaled to a size once. Of the scaled surfaces the latest are kept; a
new one takes the place of the oldest.
-/

set_option autoImplicit false

namespace VisualNovel.Window.Painter

open VisualNovel.Json VisualNovel.Numeric

def scaledLimit : Nat := 64

/-- Scaled surfaces with a new one, without the oldest if there are too many. -/
def keepScaled (scaled : List ((Nat × Size) × Surface)) (key : Nat × Size) (surface : Surface) :
    List ((Nat × Size) × Surface) :=
  (if scaledLimit ≤ scaled.length then scaled.drop 1 else scaled) ++ [(key, surface)]

def scaleTo (surface : Surface) (size : Size) : Painting Surface := do
  if surface.size = size then return surface
  match (← get).scaled.lookup (surface.number, size) with
  | some scaled => return scaled
  | none => do
      call (.scale surface.label size)
      let scaled ← newSurface (surface.label ++ "@" ++ size.text) size
      modify fun painter =>
        { painter with scaled := keepScaled painter.scaled (surface.number, size) scaled }
      return scaled

/-- The size of a surface scaled to a height without a change of its proportions. A fraction of the
height counts for the width. -/
def sizeAtHeight (size : Size) (height : Value) : Except CoercionError Size := do
  let factor := (← height.toFloat) / (← (Value.integer size.height).toFloat)
  let width ← (scaledLength size.width factor).mapError .range
  return ⟨max 1 width, max 1 (← height.toInteger)⟩

def scaleToHeight (surface : Surface) (height : Value) : Painting Surface := do
  if surface.size.height ≤ 0 then return surface
  scaleTo surface (← wanted (sizeAtHeight surface.size height))

def blitBackground (target surface : Surface) (fit : Fit) (anchor : Anchor) : Painting Unit := do
  let scaled ← scaleTo surface (← within (fitSize surface.size target.size fit))
  blit target scaled (place scaled.size target.size anchor)

def forgetScaled (painter : Painter) : Painter :=
  { painter with scaled := [] }

theorem length_keepScaled_le {scaled : List ((Nat × Size) × Surface)} (key : Nat × Size)
    (surface : Surface) (bounded : scaled.length ≤ scaledLimit) :
    (keepScaled scaled key surface).length ≤ scaledLimit := by
  unfold keepScaled
  split <;> simp only [List.length_append, List.length_drop, List.length_singleton] <;>
    simp only [scaledLimit] at * <;> omega

end VisualNovel.Window.Painter
