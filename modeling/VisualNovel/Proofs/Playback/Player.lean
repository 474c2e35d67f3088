import Mathlib.Data.Prod.Lex
import VisualNovel.Playback.Session
import VisualNovel.Proofs.Clock.Orderly

/-!
# Players in direct style

What becomes of a session when nobody calls back: its player and its clock alone,
with every move written from its beginning to its end. Events are noted with the
reading of the clock and the position they find. That a session does this is
shown elsewhere.
-/

set_option autoImplicit false

namespace VisualNovel.Playback

open VisualNovel.Clock VisualNovel.Novel

def Position.place (position : Position) : Int × Int :=
  (position.scene, position.dialogue)

/-- An event as it is seen: with the reading of the clock and the position at that moment. -/
structure Sight where
  clock : Int
  event : Event
  position : Position
  deriving DecidableEq

/-- A player with its clock, and the events it has told, the latest first. -/
structure Player (κ : Type) where
  novel : Novel
  timings : TimingTable
  timeline : Timeline (Alarm κ)
  position : Position
  typewriter : Typewriter
  generation : Nat
  transition : Option Nat
  started : Bool
  seen : List Sight

namespace Player

variable {κ : Type}

def scene? (player : Player κ) : Option Scene :=
  player.position.scene? player.novel

def dialogue? (player : Player κ) : Option Dialogue :=
  player.position.dialogue? player.novel

def now (player : Player κ) : Int :=
  player.timeline.now

def place (player : Player κ) : Int × Int :=
  player.position.place

def emit (player : Player κ) (event : Event) : Player κ :=
  { player with seen := ⟨player.timeline.now, event, player.position⟩ :: player.seen }

def withPosition (player : Player κ) (change : Position → Position) : Player κ :=
  { player with position := change player.position }

def withTyped (player : Player κ) (typed : Typed (Alarm κ)) : Player κ :=
  { player with timeline := typed.timeline, typewriter := typed.typewriter }

def stopTyping (player : Player κ) : Player κ :=
  player.withTyped (player.typewriter.cancel player.timeline)

def heed (player : Player κ) : List Signal → Player κ
  | [] => player
  | .progress revealed :: signals =>
      heed (player.withPosition fun position => { position with revealed }) signals
  | .complete skipped :: signals =>
      let player := player.withPosition fun position =>
        { position with revealed := position.textLength }
      heed (player.emit
        (.typingComplete player.position.scene player.position.dialogue skipped)) signals

@[simp] theorem heed_timeline (player : Player κ) (signals : List Signal) :
    (player.heed signals).timeline = player.timeline := by
  induction signals generalizing player with
  | nil => rfl
  | cons signal signals ih => cases signal <;> exact ih _

@[simp] theorem heed_typewriter (player : Player κ) (signals : List Signal) :
    (player.heed signals).typewriter = player.typewriter := by
  induction signals generalizing player with
  | nil => rfl
  | cons signal signals ih => cases signal <;> exact ih _

def typeLine (player : Player κ) (dialogue : Dialogue) : Player κ :=
  let begun := player.typewriter.start .strike dialogue.text player.timeline
  ((player.withPosition fun position =>
    { position with textLength := dialogue.text.length, revealed := 0 }).withTyped begun.2).heed
      begun.1

def typeLine? (player : Player κ) : Option (Player κ) :=
  match player.dialogue? with
  | none => none
  | some dialogue =>
      if !player.started || player.position.finished then none
      else some (player.typeLine dialogue)

def skip? (player : Player κ) : Option (Player κ) :=
  if player.started && player.position.isTyping then
    (player.typewriter.skip? player.timeline).map fun skipped =>
      (player.withTyped skipped.2).heed [skipped.1]
  else none

def strike (player : Player κ) (generation : Nat) : Player κ :=
  let struck := player.typewriter.strike .strike generation player.timeline
  (player.withTyped struck.2).heed struck.1

def enterDialogue (player : Player κ) : Player κ :=
  match player.dialogue? with
  | none =>
      (player.withPosition fun position =>
        { position with revealed := 0, textLength := 0 }).stopTyping
  | some dialogue =>
      let player := player.withPosition fun position =>
        { position with revealed := 0, textLength := dialogue.text.length }
      let player := player.emit
        (.dialogueEnter player.position.scene player.position.dialogue dialogue)
      player.typeLine?.getD player

def enterScene (player : Player κ) : Player κ :=
  let player := player.withPosition fun position => { position with dialogue := 0 }
  (player.emit (.sceneEnter player.position.scene player.scene?)).enterDialogue

def cancelTransition (player : Player κ) : Player κ :=
  { player with
    timeline := player.timeline.cancel? player.transition
    generation := player.generation + 1
    transition := none
    position := { player.position with transitioning := false, style := none } }

def setPhase (player : Player κ) (delay : Int) (label : String) (alarm : Alarm κ) : Player κ :=
  let set := player.timeline.later delay label alarm
  { player with timeline := set.2, transition := some set.1.1 }

def clear (player : Player κ) (generation : Nat) : Player κ :=
  if generation = player.generation then
    ({ player with
        transition := none
        position := { player.position with transitioning := false, style := none } }).emit
      (.transitionEnd player.position.scene)
  else player

def awaitClear (player : Player κ) (generation : Nat) (timing : Timing) : Player κ :=
  if generation = player.generation then
    if timing.clear ≤ 0 then player.clear generation
    else player.setPhase timing.clear "transition.clear" (.clear generation)
  else player

def commit (player : Player κ) (generation : Nat) (target : Int) (timing : Timing) : Player κ :=
  if generation = player.generation then
    let player : Player κ :=
      { player with
        transition := none
        position := { player.position with scene := target, dialogue := 0 } }
    ((player.emit (.transitionCommit target)).enterScene).awaitClear generation timing
  else player

def awaitCommit (player : Player κ) (generation : Nat) (target : Int) (timing : Timing) :
    Player κ :=
  if timing.commit ≤ 0 then player.commit generation target timing
  else player.setPhase timing.commit "transition.commit" (.commit generation target timing)

def styleOf (player : Player κ) (target : Int) : Transition :=
  ((player.novel.sceneAt? target).bind fun scene => scene.transition).getD .fade

def timingOf (player : Player κ) (target : Int) : Timing :=
  player.timings.timingFor (some (player.styleOf target))

def depart (player : Player κ) (target : Int) : Player κ :=
  let player := (player.stopTyping.withPosition fun position =>
    { position with revealed := position.textLength }).cancelTransition
  player.withPosition fun position =>
    { position with transitioning := true, style := some (player.styleOf target) }

def beginTransition (player : Player κ) (target : Int) : Player κ :=
  let player := player.depart target
  (player.emit (.transitionStart player.position.scene target
    (player.styleOf target))).awaitCommit player.generation target (player.timingOf target)

def finish (player : Player κ) : Player κ :=
  let player := player.stopTyping.withPosition fun position => { position with finished := true }
  player.emit (.finished player.position.scene player.position.dialogue)

/-- Starts the playback with the first scene. The flag tells whether that was possible, here
and in what follows. -/
def start (player : Player κ) : Bool × Player κ :=
  if player.started || player.novel.scenes.isEmpty then (false, player)
  else (true, ({ player with started := true } : Player κ).enterScene)

def startTyping (player : Player κ) : Bool × Player κ :=
  match player.typeLine? with
  | none => (false, player)
  | some player => (true, player)

def skipTyping (player : Player κ) : Bool × Player κ :=
  match player.skip? with
  | none => (false, player)
  | some player => (true, player)

def nextLine (player : Player κ) : Player κ :=
  player.withPosition fun position => { position with dialogue := position.dialogue + 1 }

def advance (player : Player κ) : Bool × Player κ :=
  if !player.started || player.position.finished || player.position.transitioning then
    (false, player)
  else if player.position.isTyping then player.skipTyping
  else if player.dialogue?.any Dialogue.hasChoices then (false, player)
  else if player.scene?.any fun scene =>
      player.position.dialogue + 1 < scene.dialogues.length then
    (true, player.nextLine.enterDialogue)
  else if player.position.scene + 1 < player.novel.scenes.length then
    (true, player.beginTransition (player.position.scene + 1))
  else (true, player.finish)

def choose (player : Player κ) (choiceId : String) : Bool × Player κ :=
  if !player.started || player.position.finished || player.position.transitioning then
    (false, player)
  else
    match player.dialogue?.bind fun dialogue => dialogue.choice? choiceId with
    | none => (false, player)
    | some choice =>
        match player.novel.sceneIndex? choice.targetSceneId with
        | none => (false, player)
        | some target =>
            (true, (player.emit (.choiceSelect choice target)).beginTransition target)

def rewind (player : Player κ) : Player κ :=
  (player.stopTyping.cancelTransition.withPosition fun _ => {}).emit .restarted

def restart (player : Player κ) : Bool × Player κ :=
  if !player.started || !player.position.finished then (false, player)
  else (true, player.rewind.enterScene)

end Player

end VisualNovel.Playback
