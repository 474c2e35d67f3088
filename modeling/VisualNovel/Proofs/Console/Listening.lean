import VisualNovel.Console.Playthrough
import VisualNovel.Proofs.Playback.Effort

/-!
# Those who listen to a playthrough

The sound listens to a playthrough, and two callbacks that make the transcript forget
what is to be printed again. None of them takes long over an event, so that the
budget of a playthrough suffices for whatever it performs.
-/

set_option autoImplicit false

namespace VisualNovel.Console

open VisualNovel.Agenda VisualNovel.Clock VisualNovel.Novel VisualNovel.Playback
open VisualNovel.Playback.Session

def directory : List (String × List (Listener Cue)) :=
  [("scene.enter", [.sound, .cue .sceneEntered]), ("dialogue.enter", [.sound, .cue .lineEntered]),
    ("playback.finished", [.sound])]

def Transcript.hear (transcript : Transcript) : Event → Transcript
  | .sceneEnter _ _ => transcript.newScene
  | .dialogueEnter _ _ _ => transcript.newLine
  | _ => transcript

theorem Transcript.hear_of_not_isPlaced (transcript : Transcript) (event : Event)
    (other : event.isPlaced = false) : transcript.hear event = transcript := by
  cases event <;> first | rfl | contradiction

namespace Playthrough

variable {playthrough : Playthrough} {player : Player Cue} {made : Request Cue}
  {events : List Event} {count : Nat}

theorem callbacks_quiet : callbacks.Quiet := by
  intro cue event
  cases cue <;> trivial

theorem tells (listening : playthrough.world.bus.listeners = directory) (event : Event) :
    ∃ after : Playthrough, Steps (clockwork callbacks).step 3
        (deliveries playthrough event) (emit playthrough event).1 [] after ∧
      after.world.bus.listeners = directory ∧
      after.world.notes = playthrough.world.notes.hear event := by
  unfold deliveries Event.Bus.heard
  rw [listening]
  cases event with
  | sceneEnter _ _ | dialogueEnter _ _ _ =>
      exact ⟨_, .cons (.cons (.cons .refl)), listening, rfl⟩
  | finished _ _ => exact ⟨_, .cons .refl, listening, rfl⟩
  | typingComplete | transitionStart | transitionCommit | transitionEnd | choiceSelect
  | restarted | closed => exact ⟨_, .refl, listening, rfl⟩

theorem terse : Terse callbacks 4 fun audience : Audience Sound.Rehearsal Cue Transcript =>
    audience.listeners = directory := by
  intro session event listening
  obtain ⟨after, steps, heard, _⟩ := tells listening event
  have stepped : (clockwork callbacks).step (.work (.emit event)) session =
      Session.jobs (emit session event) := rfl
  refine .cons stepped ?_
  rw [List.append_nil]
  exact ⟨after, steps, heard⟩

theorem hears_callbacks : Hears (β := Sound.Rehearsal) callbacks
    (fun notes audience => audience.listeners = directory ∧ audience.notes = notes)
    Transcript.hear := by
  rintro notes session event sights final ⟨listening, rfl⟩ completes
  obtain ⟨after, steps, heard, noted⟩ := tells listening event
  obtain ⟨rfl, _⟩ := steps.completes_iff.mp completes
  exact ⟨heard, noted⟩

structure Portrays (playthrough : Playthrough) (player : Player Cue) : Prop where
  shows : Shows playthrough player
  listening : playthrough.world.bus.listeners = directory

/-- What is performed within the budget is what the player responds, and the transcript is told
what the player says of its place. -/
theorem Portrays.perform (portrays : Portrays playthrough player) (resting : player.Resting)
    (plays : made.Plays)
    (finishes : Finishes callbacks (fun audience => audience.listeners = directory) count
      [.work (.request made)] playthrough)
    (enough : count ≤ budget) (utters : Player.Utters player (player.respond made).2 events) :
    Portrays (perform made playthrough).2 (player.respond made).2 ∧
      (perform made playthrough).2.world.notes =
        events.foldl Transcript.hear playthrough.world.notes := by
  obtain ⟨⟨isOpen, playing, seen, rfl⟩, listening⟩ := portrays
  have stands : Stands playthrough seen := ⟨isOpen, playing, resting⟩
  obtain ⟨sights, answer, after, performs, shows, told⟩ :=
    stands.performs callbacks_quiet (.inl plays)
  have performed : Playthrough.perform made playthrough = (answer, after) := by
    unfold Playthrough.perform
    rw [finishes.performs enough performs]
    rfl
  obtain ⟨heard, noted⟩ :=
    stands.audience callbacks_quiet hears_callbacks plays performs ⟨listening, rfl⟩
  rw [utters.foldl told Transcript.hear_of_not_isPlaced] at noted
  rw [performed]
  exact ⟨⟨shows, heard⟩, noted⟩

/-! ## What a playthrough performs -/

theorem Portrays.start (portrays : Portrays playthrough player) (resting : player.Resting)
    (utters : Player.Utters player player.start.2 events) :
    Portrays (Playthrough.perform .start playthrough).2 player.start.2 ∧
      (Playthrough.perform .start playthrough).2.world.notes =
        events.foldl Transcript.hear playthrough.world.notes :=
  portrays.perform resting trivial
    (terse.request (by decide) rfl (modest_whenOpen (modest_start playthrough) (by decide))
      portrays.listening) (by decide) utters

theorem Portrays.advance (portrays : Portrays playthrough player) (resting : player.Resting)
    (utters : Player.Utters player player.advance.2 events) :
    Portrays (Playthrough.perform .advance playthrough).2 player.advance.2 ∧
      (Playthrough.perform .advance playthrough).2.world.notes =
        events.foldl Transcript.hear playthrough.world.notes :=
  portrays.perform resting trivial
    (terse.request (by decide) rfl (modest_whenOpen (modest_advance playthrough) (by decide))
      portrays.listening) (by decide) utters

theorem Portrays.choose (portrays : Portrays playthrough player) (resting : player.Resting)
    {choiceId : String} (utters : Player.Utters player (player.choose choiceId).2 events) :
    Portrays (Playthrough.perform (.choose choiceId) playthrough).2 (player.choose choiceId).2 ∧
      (Playthrough.perform (.choose choiceId) playthrough).2.world.notes =
        events.foldl Transcript.hear playthrough.world.notes :=
  portrays.perform resting trivial
    (terse.request (by decide) rfl
      (modest_whenOpen (modest_choose playthrough choiceId) (by decide)) portrays.listening)
    (by decide) utters

/-- Waiting brings the transition under way to its end, and what was still to be said of the place
is told to the transcript. -/
theorem Portrays.await {phase : Option (Timer (Alarm Cue))}
    (portrays : Portrays playthrough player) (coherent : player.Coherent none phase)
    (prompt : player.Prompt) (rested : player.Rested phase) :
    ∃ next, Portrays (Playthrough.perform (.flush flushLimit) playthrough).2 next ∧
      next.Coherent none none ∧ next.Prompt ∧ player.Nears phase next none ∧
      (Playthrough.perform (.flush flushLimit) playthrough).2.world.notes =
        (player.announced phase).foldl Transcript.hear playthrough.world.notes := by
  have stages := Player.stages_le phase
  have limit : flushLimit = 100000 := rfl
  have enough : (0 : Nat) + Player.stages phase ≤ flushLimit := by omega
  obtain ⟨after, promptAfter, nears⟩ := coherent.flush_end prompt rested enough
  obtain ⟨events, utters, said⟩ := nears.tells
  have finishes := terse.await (by decide) callbacks_quiet portrays.shows coherent prompt rested
    portrays.listening flushLimit
  have plays : Request.Plays (.flush flushLimit : Request Cue) := trivial
  obtain ⟨portraysAfter, noted⟩ :=
    portrays.perform (.coherent coherent rested) plays finishes (by decide) utters
  have all : events = player.announced phase := by
    rw [← said]
    exact (List.append_nil events).symm
  rw [all] at noted
  exact ⟨_, portraysAfter, after, promptAfter, nears, noted⟩

end Playthrough

end VisualNovel.Console
