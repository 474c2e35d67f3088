import VisualNovel.Agenda.Script
import VisualNovel.Clock.Clockwork
import VisualNovel.Event.Bus
import VisualNovel.Playback.Event
import VisualNovel.Playback.Frame
import VisualNovel.Playback.Timing
import VisualNovel.Playback.Typewriter
import VisualNovel.Sound.Coordinator

/-!
# What a session is made of

A session plays one novel. Everything it holds besides its timeline is its stage:
the position, the typewriter, the transition under way, the sound, and the bus on
which it tells what happens. Callbacks hear the events and the timers that were set
for them; they are named by cues, and a table gives the script of each. Their
requests are the operations of the session.
-/

set_option autoImplicit false

namespace VisualNovel.Playback

open VisualNovel.Agenda VisualNovel.Clock VisualNovel.Event VisualNovel.Novel VisualNovel.Sound

inductive Gesture where
  | key (name : String)
  | click
  | pick (choiceId : String)
  | replay
  | tick (time : Int)
  | leave
  deriving DecidableEq, Repr

/-- An operation of a session. -/
inductive Request (κ : Type) where
  | start
  | advance
  | choose (choiceId : String)
  | restart
  | toggleMute
  | update (time : Int)
  | close
  /-- Types the current line again from its first character. -/
  | startTyping
  | skipTyping
  /-- Stops the player; the session itself stays open. -/
  | stop
  | flush (limit : Int)
  | cancelTimers
  | later (delay : Int) (label : String) (cue : κ)
  | setMuted (muted : Bool)
  | frame
  | statistics
  | isClosed
  | gesture (made : Gesture)

/-- What an operation of a session gives. -/
inductive Answer where
  | nothing
  | flag (value : Bool)
  | count (ran : Nat)
  | frame (shown : Frame)
  | statistics (taken : Statistics)
  deriving DecidableEq, Repr

abbrev SessionScript (κ η : Type) := Script (Request κ) Answer η

/-- The scripts of all callbacks: on an event and on a timer. -/
structure Callbacks (κ η : Type) where
  hears : κ → Event → SessionScript κ η
  rings : κ → SessionScript κ η

/-- What a timer of a session is for. -/
inductive Alarm (κ : Type) where
  | strike (generation : Nat)
  | commit (generation : Nat) (target : Int) (timing : Timing)
  | clear (generation : Nat)
  | ring (cue : κ)

/-- Who listens to the events of a session. -/
inductive Listener (κ : Type) where
  | sound
  | cue (cue : κ)
  deriving DecidableEq

inductive Warning where
  | noScenes (novel : String)
  | listenerFailed (event : String)
  | timerFailed (timer : String)
  | sound (report : Report)
  deriving DecidableEq, Repr

def Warning.message : Warning → String
  | .noScenes novel => s!"Novel '{novel}' has no scenes; nothing to play"
  | .listenerFailed event => s!"Listener for '{event}' failed"
  | .timerFailed timer => s!"Timer callback {timer} failed"
  | .sound report => report.message

/-- Everything of a session besides its timeline. -/
structure Stage (β κ η : Type) where
  novel : Novel
  timings : TimingTable
  position : Position := {}
  typewriter : Typewriter
  /-- The number of transitions begun or called off. -/
  generation : Nat := 0
  /-- The number of the timer for the next phase of the transition. -/
  transition : Option Nat := none
  started : Bool := false
  /-- Whether the player was stopped. -/
  stopped : Bool := false
  /-- Whether the session was closed. -/
  closed : Bool := false
  bus : Bus (Listener κ) := {}
  sound : Coordinator β
  /-- What the callbacks have noted. -/
  notes : η
  /-- What the last operation gave. -/
  answer : Answer := .nothing
  /-- The events so far with the reading of the clock, the latest first. -/
  chronicle : List (Int × Event) := []
  /-- The reports not yet taken up, the latest first. -/
  warnings : List Warning := []

/-- A session: a stage on its timeline. -/
abbrev Session (β κ η : Type) := Moment (Alarm κ) (Stage β κ η)

inductive Caller where
  | listener (event : String)
  | timer (name : String)
  deriving DecidableEq, Repr

def Caller.failure : Caller → Warning
  | .listener event => .listenerFailed event
  | .timer name => .timerFailed name

inductive Task (κ η : Type) where
  | request (made : Request κ)
  | reply (answer : Answer)
  /-- Answers with the number of timers that went off. -/
  | replyCount
  | emit (event : Event)
  | deliver (event : Event) (listener : Listener κ)
  | script (caller : Caller) (rest : SessionScript κ η)
  | resume (caller : Caller) (next : Answer → SessionScript κ η)
  | enterScene
  | enterDialogue
  /-- Types the line just entered. -/
  | typeLine
  | beginTransition (target : Int)
  /-- Sets the first phase of a transition going. -/
  | awaitCommit (generation : Nat) (target : Int) (timing : Timing)
  | commit (generation : Nat) (target : Int) (timing : Timing)
  /-- Sets the second phase of a transition going. -/
  | awaitClear (generation : Nat) (timing : Timing)
  | clear (generation : Nat)
  | strike (generation : Nat)
  | forgetListeners

namespace Stage

variable {β κ η : Type}

def scene? (stage : Stage β κ η) : Option Scene :=
  stage.position.scene? stage.novel

def dialogue? (stage : Stage β κ η) : Option Dialogue :=
  stage.position.dialogue? stage.novel

def isActive (stage : Stage β κ η) : Bool :=
  stage.started && !stage.stopped

def frame (stage : Stage β κ η) : Frame :=
  compose stage.novel stage.position stage.sound.muted

/-- Whether a phase of a transition belongs to one that was called off. -/
def isStale (stage : Stage β κ η) (generation : Nat) : Bool :=
  stage.stopped || generation ≠ stage.generation

def takeReports (stage : Stage β κ η) : Stage β κ η :=
  { stage with
    warnings := stage.sound.desk.reports.map .sound ++ stage.warnings
    sound := { stage.sound with desk := { stage.sound.desk with reports := [] } } }

/-- Changes the sound and takes up what it reports. -/
def withSound (stage : Stage β κ η) (sound : Coordinator β) : Stage β κ η :=
  takeReports { stage with sound }

def hear [Device β] (stage : Stage β κ η) : Event → Stage β κ η
  | .sceneEnter _ scene => stage.withSound (stage.sound.enterScene scene)
  | .dialogueEnter _ _ dialogue => stage.withSound (stage.sound.enterDialogue (some dialogue))
  | .finished _ _ => stage.withSound stage.sound.finish
  | _ => stage

end Stage

end VisualNovel.Playback
