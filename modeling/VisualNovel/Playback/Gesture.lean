import VisualNovel.Playback.Stage
import VisualNovel.Text.Name

/-!
# Gestures

What a key or a click means. At a menu that is shown only picking an entry leads
on: the keys for going on are ignored there.
-/

set_option autoImplicit false

namespace VisualNovel.Playback

open VisualNovel.Text

def Gesture.ignored : Gesture → Answer
  | .tick _ => .count 0
  | .leave => .nothing
  | .key _ | .click | .pick _ | .replay => .flag false

namespace Session

variable {β κ η : Type}

def advanceKeys : List String := ["space", "return", "enter"]

/-- Whether the keys for going on are ignored at a frame. -/
def keysSuppressed (frame : Frame) : Bool :=
  !frame.choices.isEmpty && frame.fullyRevealed && !frame.finished

/-- What a gesture leaves to be done in an open session. -/
def meaning (session : Session β κ η) : Gesture → List (Task κ η)
  | .key name =>
      let key := lower name
      if key ∈ advanceKeys then
        if keysSuppressed session.world.frame then [.reply (.flag false)] else [.request .advance]
      else if key = "m" then [.request .toggleMute, .reply (.flag true)]
      else if key = "escape" then [.request .close, .reply (.flag true)]
      else if key = "r" then [.request .restart]
      else [.reply (.flag false)]
  | .click => [.request .advance]
  | .pick choiceId => [.request (.choose choiceId)]
  | .replay => [.request .restart]
  | .tick time => [.request (.update time)]
  | .leave => [.request .close]

end Session

end VisualNovel.Playback
