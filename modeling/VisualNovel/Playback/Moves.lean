import VisualNovel.Playback.Stage

/-!
# The moves of a player

How a player goes through a novel. A line is typed, then followed by the next line
of its scene, by a transition to another scene, or by the end. A transition has
two phases, and each sets the next going; one that was called off does nothing
more. Whatever does not apply is refused and changes nothing.

A move changes the session at once as far as it can, and leaves the rest as tasks,
since the listeners of an event come before what follows it.
-/

set_option autoImplicit false

namespace VisualNovel.Playback.Session

open VisualNovel.Clock VisualNovel.Novel

variable {β κ η : Type}

abbrev Move (β κ η : Type) := Session β κ η × List (Task κ η)

def withStage (session : Session β κ η) (change : Stage β κ η → Stage β κ η) : Session β κ η :=
  { session with world := change session.world }

def withPosition (session : Session β κ η) (change : Position → Position) : Session β κ η :=
  withStage session fun stage => { stage with position := change stage.position }

def reply (session : Session β κ η) (answer : Answer) : Session β κ η :=
  withStage session fun stage => { stage with answer }

def refuse (session : Session β κ η) : Move β κ η :=
  (session, [.reply (.flag false)])

def withTyped (session : Session β κ η) (typed : Typed (Alarm κ)) : Session β κ η :=
  { session with
    timeline := typed.timeline
    world := { session.world with typewriter := typed.typewriter } }

def stopTyping (session : Session β κ η) : Session β κ η :=
  withTyped session (session.world.typewriter.cancel session.timeline)

def heed (session : Session β κ η) : List Signal → Move β κ η
  | [] => (session, [])
  | .progress revealed :: signals =>
      heed (withPosition session fun position => { position with revealed }) signals
  | .complete skipped :: signals =>
      let session := withPosition session fun position =>
        { position with revealed := position.textLength }
      let position := session.world.position
      let (session, tasks) := heed session signals
      (session, .emit (.typingComplete position.scene position.dialogue skipped) :: tasks)

def cancelTransition (session : Session β κ η) : Session β κ η :=
  let stage := session.world
  { session with
    timeline :=
      match stage.transition with
      | none => session.timeline
      | some number => session.timeline.cancel number
    world :=
      { stage with
        generation := stage.generation + 1
        transition := none
        position := { stage.position with transitioning := false, style := none } } }

def setPhase (session : Session β κ η) (delay : Int) (label : String) (alarm : Alarm κ) :
    Session β κ η :=
  let ((number, _), timeline) := session.timeline.later delay label alarm
  { session with timeline, world := { session.world with transition := some number } }

/-- Starts the playback with the first scene. -/
def start (session : Session β κ η) : Move β κ η :=
  let stage := session.world
  if stage.stopped || stage.started then refuse session
  else if stage.novel.scenes.isEmpty then
    refuse (withStage session fun stage =>
      { stage with warnings := .noScenes stage.novel.label :: stage.warnings })
  else
    (withStage session fun stage => { stage with started := true },
      [.enterScene, .reply (.flag true)])

def enterScene (session : Session β κ η) : Move β κ η :=
  let session := withPosition session fun position => { position with dialogue := 0 }
  (session,
    [.emit (.sceneEnter session.world.position.scene session.world.scene?), .enterDialogue])

def enterDialogue (session : Session β κ η) : Move β κ η :=
  let dialogue := session.world.dialogue?
  let session := withPosition session fun position =>
    { position with
      revealed := 0
      textLength := (dialogue.map fun dialogue => (dialogue.text.length : Int)).getD 0 }
  match dialogue with
  | none => (stopTyping session, [])
  | some dialogue =>
      let position := session.world.position
      (session, [.emit (.dialogueEnter position.scene position.dialogue dialogue), .typeLine])

/-- Types the current line from its first character, none if there is nothing to type. -/
def typeLine? (session : Session β κ η) : Option (Move β κ η) :=
  let stage := session.world
  match stage.dialogue? with
  | none => none
  | some dialogue =>
      if !stage.isActive || stage.position.finished then none
      else
        let session := withPosition session fun position =>
          { position with textLength := dialogue.text.length, revealed := 0 }
        let (signals, typed) := stage.typewriter.start .strike dialogue.text session.timeline
        some (heed (withTyped session typed) signals)

def startTyping (session : Session β κ η) : Move β κ η :=
  match typeLine? session with
  | none => refuse session
  | some (session, tasks) => (session, tasks ++ [.reply (.flag true)])

def skipTyping (session : Session β κ η) : Move β κ η :=
  let stage := session.world
  if stage.isActive && stage.position.isTyping then
    match stage.typewriter.skip? session.timeline with
    | none => refuse session
    | some (signal, typed) =>
        let (session, tasks) := heed (withTyped session typed) [signal]
        (session, tasks ++ [.reply (.flag true)])
  else refuse session

/-- Reveals the next character of the line that was being typed in a generation. -/
def strike (session : Session β κ η) (generation : Nat) : Move β κ η :=
  let (signals, typed) := session.world.typewriter.strike .strike generation session.timeline
  heed (withTyped session typed) signals

def finish (session : Session β κ η) : Move β κ η :=
  let session := stopTyping session
  let session := withPosition session fun position => { position with finished := true }
  let position := session.world.position
  (session, [.emit (.finished position.scene position.dialogue), .reply (.flag true)])

/-- Goes on: to the end of the line being typed, to the next line, to the next scene, or to the
end of the playback. Nothing leads past a menu. -/
def advance (session : Session β κ η) : Move β κ η :=
  let stage := session.world
  let position := stage.position
  if !stage.isActive || position.finished || position.transitioning then refuse session
  else if position.isTyping then skipTyping session
  else if stage.dialogue?.any Dialogue.hasChoices then refuse session
  else if stage.scene?.any fun scene => position.dialogue + 1 < scene.dialogues.length then
    (withPosition session fun position => { position with dialogue := position.dialogue + 1 },
      [.enterDialogue, .reply (.flag true)])
  else if position.scene + 1 < stage.novel.scenes.length then
    (session, [.beginTransition (position.scene + 1), .reply (.flag true)])
  else finish session

/-- Follows a choice of the menu at the position. -/
def choose (session : Session β κ η) (choiceId : String) : Move β κ η :=
  let stage := session.world
  if !stage.isActive || stage.position.finished || stage.position.transitioning then
    refuse session
  else
    match stage.dialogue?.bind fun dialogue => dialogue.choice? choiceId with
    | none => refuse session
    | some choice =>
        match stage.novel.sceneIndex? choice.targetSceneId with
        | none => refuse session
        | some target =>
            (session,
              [.emit (.choiceSelect choice target), .beginTransition target,
                .reply (.flag true)])

/-- Plays again from the first scene after the end. -/
def restart (session : Session β κ η) : Move β κ η :=
  let stage := session.world
  if !stage.isActive || !stage.position.finished then refuse session
  else
    let session := cancelTransition (stopTyping session)
    (withPosition session fun _ => {},
      [.emit .restarted, .enterScene, .reply (.flag true)])

/-- Stops the player for good. The flag tells whether it was not stopped before. -/
def stopPlayer (session : Session β κ η) : Bool × Session β κ η :=
  if session.world.stopped then (false, session)
  else
    (true, cancelTransition
      (stopTyping (withStage session fun stage => { stage with stopped := true })))

/-- Begins a transition to a scene, in that scene's style. -/
def beginTransition (session : Session β κ η) (target : Int) : Move β κ η :=
  let session := stopTyping session
  let session := withPosition session fun position =>
    { position with revealed := position.textLength }
  let session := cancelTransition session
  let stage := session.world
  let style := ((stage.novel.sceneAt? target).bind fun scene => scene.transition).getD .fade
  let timing := stage.timings.timingFor (some style)
  (withPosition session fun position =>
      { position with transitioning := true, style := some style },
    [.emit (.transitionStart stage.position.scene target style),
      .awaitCommit stage.generation target timing])

/-- Waits for the first phase of a transition, which may take no time. -/
def awaitCommit (session : Session β κ η) (generation : Nat) (target : Int) (timing : Timing) :
    Move β κ η :=
  if timing.commit ≤ 0 then (session, [.commit generation target timing])
  else
    (setPhase session timing.commit "transition.commit" (.commit generation target timing), [])

def commit (session : Session β κ η) (generation : Nat) (target : Int) (timing : Timing) :
    Move β κ η :=
  if session.world.isStale generation then (session, [])
  else
    let session := withStage session fun stage => { stage with transition := none }
    (withPosition session fun position => { position with scene := target, dialogue := 0 },
      [.emit (.transitionCommit target), .enterScene, .awaitClear generation timing])

/-- Waits for the second phase of a transition, which may take no time. -/
def awaitClear (session : Session β κ η) (generation : Nat) (timing : Timing) : Move β κ η :=
  if session.world.isStale generation then (session, [])
  else if timing.clear ≤ 0 then (session, [.clear generation])
  else (setPhase session timing.clear "transition.clear" (.clear generation), [])

def clear (session : Session β κ η) (generation : Nat) : Move β κ η :=
  if session.world.isStale generation then (session, [])
  else
    let session := withStage session fun stage => { stage with transition := none }
    let session := withPosition session fun position =>
      { position with transitioning := false, style := none }
    (session, [.emit (.transitionEnd session.world.position.scene)])

end VisualNovel.Playback.Session
