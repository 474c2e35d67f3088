import VisualNovel.Json.Value
import VisualNovel.Sound.Report
import VisualNovel.Window.Loop

/-!
# Windows as data values

The calls to a window system, each as a list of its name and what it was given,
and what can be clicked in a picture.
-/

set_option autoImplicit false

namespace VisualNovel.Window

open VisualNovel.Json

def integersValue (integers : List Int) : Value :=
  .list (integers.map .integer)

def Point.toValue (point : Point) : Value :=
  integersValue [point.x, point.y]

def Size.toValue (size : Size) : Value :=
  integersValue [size.width, size.height]

def Rect.toValue (rect : Rect) : Value :=
  integersValue [rect.x, rect.y, rect.width, rect.height]

def Rgb.parts (color : Rgb) : List Int :=
  [color.red, color.green, color.blue]

/-- A color as a data value. A hue is that of a color seven tenths full. -/
def Color.toValue : Color → Value
  | .plain color => integersValue color.parts
  | .veil color alpha => integersValue (color.parts ++ [alpha])
  | .hue angle =>
      .object [("hsva", .list ([angle, 70.0, 100.0, 100.0].map .number))]

def Call.toValue : Call → Value
  | .init => .ofTexts ["init"]
  | .setMode extent => .list [.text "set_mode", extent.toValue]
  | .caption title => .ofTexts ["caption", title]
  | .fill target color => .list [.text "fill", .text target, color.toValue]
  | .blit target source corner =>
      .list [.text "blit", .text target, .text source, corner.toValue]
  | .alpha target strength => .list [.text "alpha", .text target, .integer strength]
  | .rect target color area border radius =>
      .list [.text "rect", .text target, color.toValue, area.toValue, .integer border,
        .integer radius]
  | .line target color first last width =>
      .list [.text "line", .text target, color.toValue, first.toValue, last.toValue,
        .integer width]
  | .scale source extent => .list [.text "scale", .text source, extent.toValue]
  | .text words pixels color => .list [.text "text", .text words, .integer pixels, color.toValue]
  | .font path pixels => .list [.text "Font", .text path, .integer pixels]
  | .systemFont names pixels bold =>
      .list [.text "SysFont", .ofTexts names, .integer pixels, .bool bold]
  | .load source hint => .ofTexts ["load", source, hint]
  | .flip => .ofTexts ["flip"]
  | .tick rate => .list [.text "tick", .integer rate]
  | .quit => .ofTexts ["quit"]

def HostCall.toValue : HostCall → Value
  | .screen made => made.toValue
  | .mixer made => made.toValue

def Transform.toValue (transform : Transform) : Value :=
  let area := transform.area
  .list (.number transform.scale ::
    [area.x, area.y, area.width, area.height].map .integer)

def Painter.layoutValue (painter : Painter) : Value :=
  .object
    [("ui", .list (painter.targets.map fun (target, rect) =>
        .list [.text target.name, rect.toValue])),
      ("transform", (painter.transform.map Transform.toValue).getD .null)]

end VisualNovel.Window
