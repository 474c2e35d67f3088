import VisualNovel.Playback.Frame

/-!
# Transcripts

A transcript is what a playback prints on a console. Frames may be presented any
number of times: a scene's name, a line, a menu and the end are printed once. A
line is printed when it is wholly revealed, and nothing is printed while a
transition is under way.
-/

set_option autoImplicit false

namespace VisualNovel.Console

open VisualNovel.Novel VisualNovel.Playback

structure Transcript where
  line : Option (Int × Int) := none
  scene : Option Int := none
  menu : Option (Int × Int) := none
  ended : Bool := false
  deriving DecidableEq, Repr

namespace Transcript

/-- Forgets the line, so that it is printed again when it is entered again. -/
def newLine (transcript : Transcript) : Transcript :=
  { transcript with line := none, menu := none }

def newScene (transcript : Transcript) : Transcript :=
  { transcript.newLine with scene := none }

def reset (transcript : Transcript) : Transcript :=
  { transcript.newScene with ended := false }

/-- A line as it is printed: who speaks, in which manner, and what. -/
def lineText (frame : Frame) : String :=
  let tags := ([frame.expression, frame.textEffect.map word].filterMap id).filter (!·.isEmpty)
  let manner := if tags.isEmpty then "" else " [" ++ " ".intercalate tags ++ "]"
  frame.speaker.name ++ manner ++ ": " ++ frame.text

def sceneTitle (frame : Frame) : String :=
  if frame.sceneName.isEmpty then frame.sceneId.getD "None" else frame.sceneName

def menuLines (choices : List Choice) : List String :=
  choices.zipIdx.map fun (choice, index) => s!"  {index + 1}. {choice.text}"

def presentScene (transcript : Transcript) (frame : Frame) : Transcript × List String :=
  if transcript.scene = some frame.sceneIndex then (transcript, [])
  else
    ({ transcript with scene := some frame.sceneIndex }, ["== " ++ sceneTitle frame ++ " =="])

/-- Prints the line if it is wholly revealed, unless it was printed last. -/
def presentLine (transcript : Transcript) (frame : Frame) : Transcript × List String :=
  let place := (frame.sceneIndex, frame.dialogueIndex)
  if frame.status = .ready ∧ frame.fullyRevealed ∧ transcript.line ≠ some place then
    ({ transcript with line := some place }, [lineText frame])
  else (transcript, [])

def presentMenu (transcript : Transcript) (frame : Frame) : Transcript × List String :=
  let place := (frame.sceneIndex, frame.dialogueIndex)
  if frame.showChoices ∧ transcript.menu ≠ some place then
    ({ transcript with menu := some place }, menuLines frame.choices)
  else (transcript, [])

def present (transcript : Transcript) (frame : Frame) : Transcript × List String :=
  match frame.status with
  | .noScene =>
      if transcript.scene.isNone then
        ({ transcript with scene := some (-1) }, ["(nothing to play)"])
      else (transcript, [])
  | .finished =>
      if transcript.ended then (transcript, [])
      else ({ transcript with ended := true }, ["The End"])
  | .ready | .noDialogue =>
      let transcript := if transcript.ended then transcript.reset else transcript
      if frame.transitionStyle.isSome then (transcript.newScene, [])
      else
        let (transcript, title) := transcript.presentScene frame
        let (transcript, line) := transcript.presentLine frame
        let (transcript, menu) := transcript.presentMenu frame
        (transcript, title ++ line ++ menu)

end Transcript

end VisualNovel.Console
