import VisualNovel.Clock.Timeline
import VisualNovel.Playback.Reveal

/-!
# Typewriters

A typewriter reveals one line at a time, a character whenever its timer goes off.
Every line has a generation of its own, so that a timer set for an earlier line
does nothing. With an interval of zero or less a line is revealed at once. What
happens to a line is told by signals.
-/

set_option autoImplicit false

namespace VisualNovel.Playback

open VisualNovel.Clock

/-- What a typewriter tells of the line it types. -/
inductive Signal where
  | progress (revealed : Nat)
  | complete (skipped : Bool)
  deriving DecidableEq, Repr

/-- A typewriter with the line it types. -/
structure Typewriter where
  interval : Int
  reveal : Reveal := {}
  generation : Nat := 0
  /-- The number of the timer that reveals the next character. -/
  timer : Option Nat := none
  deriving DecidableEq, Repr

structure Typed (ρ : Type) where
  typewriter : Typewriter
  timeline : Timeline ρ

def defaultInterval : Int := 30

namespace Typewriter

def isTyping (typewriter : Typewriter) : Bool :=
  !typewriter.reveal.complete

variable {ρ : Type}

def cancelTimer (typewriter : Typewriter) (timeline : Timeline ρ) : Typed ρ :=
  match typewriter.timer with
  | none => ⟨typewriter, timeline⟩
  | some number => ⟨{ typewriter with timer := none }, timeline.cancel number⟩

/-- Stops the line. A timer that was set for it is of an earlier generation from now on. -/
def cancel (typewriter : Typewriter) (timeline : Timeline ρ) : Typed ρ :=
  let ⟨typewriter, timeline⟩ := typewriter.cancelTimer timeline
  ⟨{ typewriter with
      generation := typewriter.generation + 1
      reveal := { typewriter.reveal with complete := true } }, timeline⟩

def setTimer (tick : Nat → ρ) (typewriter : Typewriter) (timeline : Timeline ρ) : Typed ρ :=
  let ((number, _), timeline) :=
    timeline.later typewriter.interval "typewriter" (tick typewriter.generation)
  ⟨{ typewriter with timer := some number }, timeline⟩

/-- Begins a line and stops the one before. The payload of its timers is made from its
generation. -/
def start (tick : Nat → ρ) (text : String) (typewriter : Typewriter) (timeline : Timeline ρ) :
    List Signal × Typed ρ :=
  let ⟨typewriter, timeline⟩ := typewriter.cancel timeline
  let typewriter := { typewriter with reveal := Reveal.ofText text }
  if typewriter.reveal.complete then ([.complete false], ⟨typewriter, timeline⟩)
  else if typewriter.interval ≤ 0 then
    ([.complete false], ⟨{ typewriter with reveal := typewriter.reveal.all }, timeline⟩)
  else ([], typewriter.setTimer tick timeline)

/-- Reveals the whole line at once, none if no line is being typed. -/
def skip? (typewriter : Typewriter) (timeline : Timeline ρ) : Option (Signal × Typed ρ) :=
  if typewriter.isTyping then
    let ⟨typewriter, timeline⟩ := typewriter.cancelTimer timeline
    some (.complete true, ⟨{ typewriter with reveal := typewriter.reveal.all }, timeline⟩)
  else none

/-- What the timer of a generation does: it reveals a character of the line it was set for. -/
def strike (tick : Nat → ρ) (generation : Nat) (typewriter : Typewriter)
    (timeline : Timeline ρ) : List Signal × Typed ρ :=
  if generation = typewriter.generation then
    let reveal := typewriter.reveal.step 1
    let typewriter := { typewriter with reveal, timer := none }
    if reveal.complete then
      ([.progress reveal.revealed, .complete false], ⟨typewriter, timeline⟩)
    else ([.progress reveal.revealed], typewriter.setTimer tick timeline)
  else ([], ⟨typewriter, timeline⟩)

end Typewriter

end VisualNovel.Playback
