import VisualNovel.Proofs.Agenda.Completion
import VisualNovel.Proofs.Playback.Player

/-!
# Histories of a session

A history is a sequence of requests to an open session, each performed to its end
before the next, together with what is seen of them: every event with the reading
of the clock and the position at the moment it is told. The callbacks may ask for
what concerns the sound or only reads, but not for moves of their own.
-/

set_option autoImplicit false

namespace VisualNovel.Playback

open VisualNovel.Agenda VisualNovel.Clock VisualNovel.Sound

variable {β κ η : Type}

/-- A request that concerns the sound or only reads. -/
def Request.Quiet : Request κ → Prop
  | .toggleMute | .setMuted _ | .frame | .statistics | .isClosed => True
  | _ => False

/-- A request that moves the player or its clock on. -/
def Request.Plays : Request κ → Prop
  | .start | .advance | .choose _ | .restart | .startTyping | .skipTyping | .update _
  | .flush _ => True
  | _ => False

/-- Callbacks that make no moves of their own on an event. -/
def Callbacks.Quiet (callbacks : Callbacks κ η) : Prop :=
  ∀ cue event, (callbacks.hears cue event).Asks Request.Quiet

/-- A request with the session before and after it. -/
structure Turn (β κ η : Type) where
  before : Session β κ η
  made : Request κ
  sights : List Sight
  answer : Answer
  after : Session β κ η

namespace Session

structure Fresh (session : Session β κ η) : Prop where
  unstarted : session.world.started = false
  playing : session.world.stopped = false
  isOpen : session.world.closed = false
  position : session.world.position = {}
  released : session.world.typewriter.timer = none
  still : session.world.transition = none
  ticking : session.timeline.closed = false
  idle : session.timeline.pending = []

def sighting : Job (Task κ η) → Session β κ η → List Sight
  | .work (.emit event), session => [⟨session.timeline.now, event, session.world.position⟩]
  | _, _ => []

variable [DecidableEq κ]

theorem fresh_new (novel : Novel) (preferences : Preferences) (device : β) (now : Int)
    (notes : η) : (new novel preferences device now notes : Session β κ η).Fresh :=
  ⟨rfl, rfl, rfl, rfl, rfl, rfl, rfl, rfl⟩

theorem Fresh.listen {session : Session β κ η} (fresh : session.Fresh) (name : String)
    (cue : κ) : (session.listen name cue).Fresh :=
  ⟨fresh.unstarted, fresh.playing, fresh.isOpen, fresh.position, fresh.released, fresh.still,
    fresh.ticking, fresh.idle⟩

variable [Device β]

/-- A request is performed to its end, with what is seen of it and the answer it gets. -/
def Performs (callbacks : Callbacks κ η) (before : Session β κ η) (made : Request κ)
    (sights : List Sight) (answer : Answer) (after : Session β κ η) : Prop :=
  ∃ budget, perform? callbacks budget made before = some (answer, after) ∧
    watch sighting (clockwork callbacks).step budget [.work (.request made)] before = sights

/-- The turns that lead from a session to another one. -/
inductive History (callbacks : Callbacks κ η) (first : Session β κ η) :
    List (Turn β κ η) → Session β κ η → Prop where
  | nil : History callbacks first [] first
  | snoc {turns : List (Turn β κ η)} {before after : Session β κ η} {made : Request κ}
      {sights : List Sight} {answer : Answer} :
      History callbacks first turns before → made.Plays ∨ made.Quiet →
      Performs callbacks before made sights answer after →
      History callbacks first (turns ++ [⟨before, made, sights, answer, after⟩]) after

variable {callbacks : Callbacks κ η} {before after : Session β κ η} {made : Request κ}
  {sights : List Sight} {answer : Answer}

theorem performs_iff :
    Performs callbacks before made sights answer after ↔
      Completes sighting (clockwork callbacks).step [.work (.request made)] before sights after ∧
        after.world.answer = answer :=
  completes_given_iff

theorem Performs.unique {otherwise : List Sight} {given : Answer} {other : Session β κ η}
    (first : Performs callbacks before made sights answer after)
    (second : Performs callbacks before made otherwise given other) :
    sights = otherwise ∧ answer = given ∧ after = other := by
  obtain ⟨completes, rfl⟩ := performs_iff.mp first
  obtain ⟨completesToo, rfl⟩ := performs_iff.mp second
  obtain ⟨rfl, rfl⟩ := completes.unique completesToo
  exact ⟨rfl, rfl, rfl⟩

end Session

end VisualNovel.Playback
