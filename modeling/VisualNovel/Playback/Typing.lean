import VisualNovel.Clock.Clockwork
import VisualNovel.Playback.Typewriter

/-!
# Typing on a timeline

A typewriter that has a timeline to itself, with the signals it has given.
-/

set_option autoImplicit false

namespace VisualNovel.Playback

open VisualNovel.Clock

structure TypingWorld where
  typewriter : Typewriter
  signals : List Signal := []

/-- A typewriter on its timeline. A timer stands for the generation it was set in. -/
abbrev Typing := Moment Nat TypingWorld

namespace Typing

def new (now interval : Int) : Typing where
  timeline := { now }
  world := { typewriter := { interval } }

def put (typing : Typing) (signals : List Signal) (typed : Typed Nat) : Typing :=
  { typing with
    timeline := typed.timeline
    world := ⟨typed.typewriter, signals.reverse ++ typing.world.signals⟩ }

def start (text : String) (typing : Typing) : Typing :=
  let (signals, typed) := typing.world.typewriter.start id text typing.timeline
  put typing signals typed

/-- Reveals the whole line. The flag tells whether one was being typed. -/
def skip (typing : Typing) : Bool × Typing :=
  match typing.world.typewriter.skip? typing.timeline with
  | none => (false, typing)
  | some (signal, typed) => (true, put typing [signal] typed)

def cancel (typing : Typing) : Typing :=
  put typing [] (typing.world.typewriter.cancel typing.timeline)

def clockwork : Clockwork Nat TypingWorld Nat where
  start timer := [timer.payload]
  act generation typing :=
    let (signals, typed) := typing.world.typewriter.strike id generation typing.timeline
    (put typing signals typed, [])

def update? (budget : Nat) (time : Int) (typing : Typing) : Option Typing :=
  clockwork.run budget [.update time] typing

def flush? (budget : Nat) (limit : Int) (typing : Typing) : Option Typing :=
  clockwork.run budget [.flush limit 0] typing

end Typing

end VisualNovel.Playback
