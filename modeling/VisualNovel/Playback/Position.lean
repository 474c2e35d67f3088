import VisualNovel.Novel.Basic

/-!
# Where a playback stands

The position in the novel, how much of the current line is revealed, and whether
a transition is under way or the end has been reached. The numbers are plain
integers: a state can be composed into a frame whatever they are.
-/

set_option autoImplicit false

namespace VisualNovel.Playback

open VisualNovel.Novel

/-- The state of a playback that can be seen. -/
structure Position where
  scene : Int := 0
  dialogue : Int := 0
  revealed : Int := 0
  transitioning : Bool := false
  finished : Bool := false
  style : Option Transition := none
  textLength : Int := 0
  deriving DecidableEq, Repr

def Position.isTyping (position : Position) : Bool :=
  !position.finished && decide (position.revealed < position.textLength)

def Position.scene? (position : Position) (novel : Novel) : Option Scene :=
  novel.sceneAt? position.scene

def Position.dialogue? (position : Position) (novel : Novel) : Option Dialogue :=
  novel.dialogueAt? position.scene position.dialogue

end VisualNovel.Playback
