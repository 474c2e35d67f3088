import VisualNovel.Console.Transcript
import VisualNovel.Numeric.Numeral
import VisualNovel.Playback.Session
import VisualNovel.Sound.Rehearsal

/-!
# Playing on a console

A playthrough is a session without sound whose lines are typed at once. Its
callbacks keep the transcript. At every turn the transition under way is let to
its end and the frame is presented; then the session goes on by itself, with the
first choice that leads anywhere, or does what a line of input says. A
playthrough is over when there is nothing more to show, and it stops when it has
taken as many turns as it may.
-/

set_option autoImplicit false

namespace VisualNovel.Console

open VisualNovel.Agenda VisualNovel.Clock VisualNovel.Novel VisualNovel.Numeric
open VisualNovel.Playback VisualNovel.Sound VisualNovel.Text

/-- What is written to a console: a line with its end, or the request for input. -/
inductive Printed where
  | line (text : String)
  | prompt
  deriving DecidableEq, Repr

def Printed.text : Printed → String
  | .line text => text ++ "\n"
  | .prompt => "> "

inductive Cue where
  | sceneEntered
  | lineEntered
  deriving DecidableEq, Repr

/-- A session that is played on a console. -/
abbrev Playthrough := Session Rehearsal Cue Transcript

inductive Breakdown where
  /-- The number of a menu entry is no numeral. -/
  | badNumber (word : String) (reason : NumeralError)
  /-- The turns are limited, but by no number. -/
  | noLimit
  deriving DecidableEq, Repr

def Breakdown.message : Breakdown → String
  | .badNumber word reason => reason.message word
  | .noLimit => "'>=' not supported between instances of 'int' and 'list'"

inductive Turn where
  | stops (printed : List Printed)
  | breaks (error : Breakdown)
  | goesOn (printed : List Printed) (playthrough : Playthrough)

/-- A playthrough that has come to its end, with everything that was printed. -/
structure Recital where
  printed : List Printed
  error : Option Breakdown
  playthrough : Playthrough

def Recital.after (printed : List Printed) (recital : Recital) : Recital :=
  { recital with printed := printed ++ recital.printed }

namespace Playthrough

def callbacks : Callbacks Cue Transcript where
  hears cue _ :=
    match cue with
    | .sceneEntered => .note Transcript.newScene .done
    | .lineEntered => .note Transcript.newLine .done
  rings _ := .done

/-- A budget for any operation of a playthrough. There are never more than two timers, so that no
operation takes more than some dozens of tasks. -/
def budget : Nat := 1000

def perform (made : Request Cue) (playthrough : Playthrough) : Answer × Playthrough :=
  (Session.perform? callbacks budget made playthrough).getD (.nothing, playthrough)

def start (novel : Novel) (preferences : Preferences) : Playthrough :=
  let session := Session.new novel { preferences with typingInterval := 0 } Rehearsal.willing 0 {}
  let session := Session.listen session "scene.enter" .sceneEntered
  let session := Session.listen session "dialogue.enter" .lineEntered
  (perform .start session).2

def look (playthrough : Playthrough) : Frame × List Printed × Playthrough :=
  let playthrough := (perform (.flush flushLimit) playthrough).2
  let frame := playthrough.world.frame
  let (transcript, lines) := playthrough.world.notes.present frame
  (frame, lines.map .line,
    { playthrough with world := { playthrough.world with notes := transcript } })

def isLast (frame : Frame) : Bool :=
  frame.status == .finished || frame.status == .noScene

/-- The first entry of a menu that leads to a scene. -/
def firstOpenChoice? (novel : Novel) (frame : Frame) : Option Choice :=
  frame.choices.find? fun choice => (novel.sceneIndex? choice.targetSceneId).isSome

def goOn (frame : Frame) (playthrough : Playthrough) : Turn :=
  if frame.showChoices then
    match firstOpenChoice? playthrough.world.novel frame with
    | none => .stops [.line "(no choice leads anywhere; stopping)"]
    | some choice => .goesOn [] (perform (.choose choice.id) playthrough).2
  else .goesOn [] (perform .advance playthrough).2

/-- Picks the entry of a menu that a number names, counted from one. -/
def pick (frame : Frame) (number : Int) (playthrough : Playthrough) : Turn :=
  match itemAt? frame.choices (number - 1) with
  | none => .goesOn [.line "(that choice is unavailable)"] playthrough
  | some choice =>
      match perform (.choose choice.id) playthrough with
      | (.flag true, playthrough) => .goesOn [] playthrough
      | (_, playthrough) => .goesOn [.line "(that choice is unavailable)"] playthrough

/-- Does what a line of input says: a number picks an entry of the menu, anything else that is no
command goes on. -/
def obey (frame : Frame) (input : String) (playthrough : Playthrough) : Turn :=
  let word := wordForm input
  if word = "q" then .stops []
  else if isDigits word && frame.showChoices then
    match readInteger word with
    | .ok number => pick frame number playthrough
    | .error reason => .breaks (.badNumber word reason)
  else if word = "m" then
    match perform .toggleMute playthrough with
    | (.flag true, playthrough) => .goesOn [.line "(muted)"] playthrough
    | (_, playthrough) => .goesOn [.line "(unmuted)"] playthrough
  else .goesOn [] (perform .advance playthrough).2

def finish (printed : List Printed) (error : Option Breakdown) (playthrough : Playthrough) :
    Recital :=
  ⟨printed, error, (perform .close playthrough).2⟩

/-- Ends a playthrough after a turn, or has the rest of it come after what was printed. -/
def conclude (shown : List Printed) (playthrough : Playthrough) (rest : Playthrough → Recital) :
    Turn → Recital
  | .stops printed => finish (shown ++ printed) none playthrough
  | .breaks error => finish shown (some error) playthrough
  | .goesOn printed playthrough => (rest playthrough).after (shown ++ printed)

def playAlone (turns : Nat) (playthrough : Playthrough) : Recital :=
  let (frame, shown, playthrough) := look playthrough
  if isLast frame then finish shown none playthrough
  else
    match turns with
    | 0 => finish shown none playthrough
    | turns + 1 => conclude shown playthrough (playAlone turns) (goOn frame playthrough)

/-- Plays on lines of input, to their end or for at most the given number of turns. -/
def playAlong (turns : Option Nat) (playthrough : Playthrough) (inputs : List String) : Recital :=
  let (frame, shown, playthrough) := look playthrough
  if isLast frame || turns == some 0 then finish shown none playthrough
  else
    let shown := shown ++ [.prompt]
    match inputs with
    | [] => finish shown none playthrough
    | input :: inputs =>
        conclude shown playthrough (fun next => playAlong (turns.map (· - 1)) next inputs)
          (obey frame input playthrough)

/-- Presents what comes first, and breaks off there unless nothing comes after it. -/
def breakOff (playthrough : Playthrough) : Recital :=
  let (frame, shown, playthrough) := look playthrough
  finish shown (if isLast frame then none else some .noLimit) playthrough

end Playthrough

end VisualNovel.Console
