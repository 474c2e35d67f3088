import VisualNovel.Playback.Session
import VisualNovel.Sound.Mixer
import VisualNovel.Sound.Rehearsal
import VisualNovel.Window.Pointer

/-!
# Windows

A window shows a session. It takes what is done at the keys and with the mouse,
moves the session on by the time that has passed, and draws the frame, over and
over until the session is closed. Then it is closed itself, also when drawing was
broken off.
-/

set_option autoImplicit false

namespace VisualNovel

open VisualNovel.Files VisualNovel.Playback VisualNovel.Sound
open VisualNovel.Window (Painter Painting Font Failure Host Target Point Call)

namespace Window

inductive HostCall where
  | screen (made : Call)
  | mixer (made : MixerCall)

inductive Report where
  | playback (warning : Playback.Warning)
  | drawing (warning : Window.Warning)
  deriving DecidableEq, Repr

def Report.message : Report → String
  | .playback warning => warning.message
  | .drawing warning => warning.message

inductive Input where
  | key (name : String)
  | press (point : Point) (button : Int)
  | quit
  | other
  deriving DecidableEq, Repr

/-- What was done since the last time, and the time now if that is told. -/
structure Poll where
  time : Option Int := none
  inputs : List Input := []
  deriving DecidableEq, Repr

/-- A device that tells the calls it made to a mixer, the latest first. -/
class Recorder (β : Type) where
  takeCalls : β → List MixerCall × β

instance : Recorder Mixer where
  takeCalls mixer := (mixer.calls, { mixer with calls := [] })

instance : Recorder Rehearsal where
  takeCalls rehearsal := ([], rehearsal)

end Window

/-- A window with its session. -/
structure Window (β κ η : Type) where
  session : Session β κ η
  painter : Painter
  timings : TimingTable
  /-- The time that the window system tells. -/
  ticks : Int := 0
  /-- What was called so far, the latest first. -/
  log : List Window.HostCall := []
  /-- The reports so far, the latest first. -/
  reports : List Window.Report := []

namespace Window

/-- Opens the window system: a window with its title, and the fonts for everything besides the
lines themselves. -/
def Painter.open (title : String) (preferences : Preferences) : Painting Unit := do
  let screen : Size := ⟨preferences.windowWidth, preferences.windowHeight⟩
  Painter.call .init
  Painter.call (.setMode screen)
  Painter.call (.caption title)
  let fontPath ←
    match preferences.fontPath with
    | none => pure none
    | some (.text path) => pure (some path)
    | some value => throw (.reference (.file (.notAPath value.kind)))
  let smallFont ← Painter.makeFont fontPath .sans ⟨22, false⟩
  let bigFont ← Painter.makeFont fontPath .sans ⟨64, true⟩
  modify fun painter => { painter with screen, fontPath, smallFont, bigFont }

def Painter.close : Painting Unit := do
  modify fun painter => painter.forgetPictures.forgetFonts.forgetScaled
  Painter.call .quit

variable {β κ η : Type} [Device β] [Recorder β] [DecidableEq κ]

def settle (window : Window β κ η) : Window β κ η :=
  let stage := window.session.world
  let (calls, device) := Recorder.takeCalls stage.sound.desk.device
  let sound := { stage.sound with desk := { stage.sound.desk with device } }
  { window with
    session := { window.session with world := { stage with sound, warnings := [] } }
    painter := { window.painter with calls := [], warnings := [] }
    log := window.painter.calls.map .screen ++ calls.map .mixer ++ window.log
    reports :=
      window.painter.warnings.map .drawing ++ stage.warnings.map .playback ++ window.reports }

def paint (painting : Painting Unit) (window : Window β κ η) : Except Failure Unit × Window β κ η :=
  let (result, painter) := painting.run.run window.painter
  (result, settle { window with painter })

def draw (window : Window β κ η) : Except Failure Unit × Window β κ η :=
  paint (Painter.present window.timings window.ticks window.session.world.frame) window

def opened (host : Host) (tree : Tree) (assets : Option GivenPath) (title : String)
    (preferences : Preferences) (session : Session β κ η) :
    Except Failure Unit × Window β κ η :=
  paint (Painter.open title preferences)
    { session, painter := { host, tree, assets }, timings := preferences.timings }

variable (callbacks : Callbacks κ η) (budget : Nat)

def ask (made : Request κ) (window : Window β κ η) : Answer × Window β κ η :=
  match Session.perform? callbacks budget made window.session with
  | none => (.nothing, window)
  | some (answer, session) => (answer, settle { window with session })

/-- Clicks on something. The flag tells whether that had an effect; asking to close always has. -/
def click (target : Option Target) (window : Window β κ η) : Bool × Window β κ η :=
  match target with
  | none => (false, window)
  | some target =>
      match ask callbacks budget (.gesture target.gesture) window with
      | (.flag changed, window) => (changed, window)
      | (_, window) => (true, window)

/-- Takes what was done. Only the first mouse button counts. -/
def take (window : Window β κ η) : Input → Window β κ η
  | .key name => (ask callbacks budget (.gesture (.key name)) window).2
  | .press point button =>
      if button = 1 then (click callbacks budget (window.painter.hit? point) window).2 else window
  | .quit => (ask callbacks budget (.gesture .leave) window).2
  | .other => window

def takeAll (poll : Poll) (window : Window β κ η) : Window β κ η :=
  poll.inputs.foldl (take callbacks budget) { window with ticks := poll.time.getD window.ticks }

/-- Moves the session on by the time that has passed since a beginning, and draws it. -/
def goOn (start rate : Int) (window : Window β κ η) : Except Failure Unit × Window β κ η :=
  let window := (ask callbacks budget (.gesture (.tick (window.ticks - start))) window).2
  paint (do
    Painter.present window.timings window.ticks window.session.world.frame
    Painter.call (.tick (max 10 rate))) window

def leave (window : Window β κ η) : Window β κ η :=
  (paint Painter.close (ask callbacks budget (.gesture .leave) window).2).2

def loopFrom (start rate : Int) :
    List Poll → Window β κ η → Except Failure Unit × Window β κ η
  | [], window => (.ok (), leave callbacks budget window)
  | poll :: polls, window =>
      if window.session.world.closed then (.ok (), leave callbacks budget window)
      else
        let window := takeAll callbacks budget poll window
        if window.session.world.closed then (.ok (), leave callbacks budget window)
        else
          match goOn callbacks budget start rate window with
          | (.ok _, window) => loopFrom start rate polls window
          | (.error failure, window) => (.error failure, leave callbacks budget window)

/-- Shows a session until it is closed. After everything that was done, the window is closed. -/
def loop (rate : Int) (polls : List Poll) (window : Window β κ η) :
    Except Failure Unit × Window β κ η :=
  loopFrom callbacks budget window.ticks rate (polls ++ [{ inputs := [.quit] }]) window

def noCallbacks : Callbacks Empty Unit where
  hears cue := nomatch cue
  rings cue := nomatch cue

def titleFor (novel : Novel) : String :=
  if novel.title.isEmpty then "novelvn" else novel.title

/-- Plays a novel in a window with sound. -/
def play (host : Host) (tree : Tree) (assets : Option GivenPath) (novel : Novel)
    (preferences : Preferences) (budget : Nat) (polls : List Poll) :
    Except Failure Unit × Window Mixer Empty Unit :=
  let session := Session.new novel preferences ({ tree, assets } : Mixer) 0 ()
  match opened host tree assets (titleFor novel) preferences session with
  | (.error failure, window) => (.error failure, window)
  | (.ok _, window) =>
      loop noCallbacks budget preferences.framesPerSecond polls
        (ask noCallbacks budget .start window).2

end Window

end VisualNovel
