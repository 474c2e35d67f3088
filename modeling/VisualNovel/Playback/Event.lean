import VisualNovel.Novel.Basic

/-!
# Events of a playback

What a playback tells those who follow it. Every kind of event has a name under
which listeners register.
-/

set_option autoImplicit false

namespace VisualNovel.Playback

open VisualNovel.Novel

/-- An event. Positions are those at the moment of the event. -/
inductive Event where
  | sceneEnter (sceneIndex : Int) (scene : Option Scene)
  | dialogueEnter (sceneIndex dialogueIndex : Int) (dialogue : Dialogue)
  | typingComplete (sceneIndex dialogueIndex : Int) (skipped : Bool)
  | transitionStart (origin target : Int) (style : Transition)
  | transitionCommit (sceneIndex : Int)
  | transitionEnd (sceneIndex : Int)
  | choiceSelect (choice : Choice) (target : Nat)
  | finished (sceneIndex dialogueIndex : Int)
  | restarted
  | closed
  deriving DecidableEq, Repr

def Event.name : Event → String
  | .sceneEnter _ _ => "scene.enter"
  | .dialogueEnter _ _ _ => "dialogue.enter"
  | .typingComplete _ _ _ => "typing.complete"
  | .transitionStart _ _ _ => "transition.start"
  | .transitionCommit _ => "transition.commit"
  | .transitionEnd _ => "transition.end"
  | .choiceSelect _ _ => "choice.select"
  | .finished _ _ => "playback.finished"
  | .restarted => "playback.restart"
  | .closed => "session.close"

def eventNames : List String :=
  ["scene.enter", "dialogue.enter", "typing.complete", "transition.start", "transition.commit",
    "transition.end", "choice.select", "playback.finished", "playback.restart", "session.close"]

theorem Event.name_mem_eventNames (event : Event) : event.name ∈ eventNames := by
  cases event <;> simp [name, eventNames]

def soundEventNames : List String := ["scene.enter", "dialogue.enter", "playback.finished"]

end VisualNovel.Playback
