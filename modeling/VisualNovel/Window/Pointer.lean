import VisualNovel.Playback.Stage
import VisualNovel.Window.Show

/-!
# Pointing

What a click in the window hits. The panel lies below everything else that can be
clicked.
-/

set_option autoImplicit false

namespace VisualNovel.Window

open VisualNovel.Playback

def Target.name : Target → String
  | .panel => "panel"
  | .choice id => "choice:" ++ id
  | .mute => "mute"
  | .close => "close"
  | .endReplay => "end:replay"
  | .endClose => "end:close"

def Target.find? (name : String) : Option Target :=
  match [panel, mute, close, endReplay, endClose].find? fun target => target.name == name with
  | some target => some target
  | none =>
      if name.startsWith "choice:" then some (.choice (String.ofList (name.toList.drop 7)))
      else none

def Target.gesture : Target → Gesture
  | .panel => .click
  | .choice id => .pick id
  | .mute => .key "m"
  | .close | .endClose => .leave
  | .endReplay => .replay

def Painter.hit? (painter : Painter) (point : Point) : Option Target := do
  let point ← painter.canvasPoint? point
  let hits := painter.targets.filter fun entry => entry.2.contains point
  let (target, _) ← (hits.find? fun entry => entry.1 ≠ .panel).or hits.head?
  return target

end VisualNovel.Window
