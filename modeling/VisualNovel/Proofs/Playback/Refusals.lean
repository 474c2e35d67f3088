import VisualNovel.Proofs.Playback.Decisions
import VisualNovel.Proofs.Playback.Standing

/-!
# Refusals

What a player refuses it leaves as it was: the position, the line being typed, the
transition, the clock with its timers, those who listen, the events counted so far
and the sound with all that was asked of its device. This holds of any session
whatever, so also of one that is in the midst of an event.
-/

set_option autoImplicit false

namespace VisualNovel.Playback

open VisualNovel.Agenda VisualNovel.Clock VisualNovel.Novel VisualNovel.Sound

variable {β κ η : Type}

namespace Session

/-- A move is refused, with at most the report that there is nothing to play, or it ends with the
answer that it was made. -/
inductive Decided (session : Session β κ η) : Move β κ η → Prop where
  | refused : Decided session (refuse session)
  | nothingToPlay : Decided session
      (refuse (withStage session fun stage =>
        { stage with warnings := .noScenes stage.novel.label :: stage.warnings }))
  | made (next : Session β κ η) (tasks : List (Task κ η)) :
      Decided session (next, tasks ++ [.reply (.flag true)])

variable {session before after : Session β κ η}

theorem Decides.decided {move : Move β κ η} (decides : session.Decides move) :
    session.Decided move := by
  cases decides with
  | refuses => exact .refused
  | nothingToPlay => exact .nothingToPlay
  | starts _ => exact .made _ [.enterScene]
  | types _ => exact .made _ _
  | follows _ => exact .made _ [.enterDialogue]
  | crosses target _ _ => exact .made session [.beginTransition target]
  | picks choice target _ _ =>
      exact .made session [.emit (.choiceSelect choice target), .beginTransition target]
  | ends _ _ _ _ => exact .made _ [_]
  | restarts _ _ => exact .made _ [.emit .restarted, .enterScene]

variable [Device β] [DecidableEq κ] {callbacks : Callbacks κ η} {sights : List Sight}

theorem completes_reply {answer : Answer}
    (completes : Completes sighting (clockwork callbacks).step [.work (.reply answer)] session
      sights after) : sights = [] ∧ after = session.reply answer := by
  cases completes with
  | cons rest =>
      cases rest with
      | nil => exact ⟨rfl, rfl⟩

/-- What is left of a session by a move that was refused. -/
structure Unchanged (before after : Session β κ η) : Prop where
  same : after = { before with
    world := { before.world with
      answer := .flag false
      warnings := after.world.warnings } }
  reports : after.world.warnings = before.world.warnings ∨
    after.world.warnings = .noScenes before.world.novel.label :: before.world.warnings

/-- A move that was refused told nothing and left the session as it was. -/
theorem Decided.unchanged {move : Move β κ η} (decided : before.Decided move)
    (returned : Completes sighting (clockwork callbacks).step (jobs move).2 (jobs move).1 sights
      after) (refused : after.world.answer = .flag false) :
    sights = [] ∧ before.Unchanged after := by
  cases decided with
  | refused =>
      obtain ⟨silent, rfl⟩ := completes_reply returned
      exact ⟨silent, rfl, .inl rfl⟩
  | nothingToPlay =>
      obtain ⟨silent, rfl⟩ := completes_reply returned
      exact ⟨silent, rfl, .inr rfl⟩
  | made next tasks =>
      -- the last that is done is to answer otherwise
      simp only [jobs, List.map_append] at returned
      obtain ⟨middle, _, _, _, last, _⟩ := returned.split
      obtain ⟨_, rfl⟩ := completes_reply last
      have answers : Answer.flag true = Answer.flag false := refused
      contradiction

/-- A move that is refused changes nothing and tells nothing, whether it was asked of the session
or of its player, and in whatever state. -/
theorem refused_unchanged {made : Request κ} {move : Move β κ η}
    (asked : made.move? before = some move)
    (returned :
      Completes sighting (clockwork callbacks).step [.work (.request made)] before sights after ∨
        Completes sighting (clockwork callbacks).step (jobs move).2 (jobs move).1 sights after)
    (refused : after.world.answer = .flag false) : sights = [] ∧ before.Unchanged after := by
  rcases returned with ofSession | ofPlayer
  · obtain ⟨decision, begun, decides⟩ := decides_begin asked
    cases ofSession with
    | cons rest =>
        simp only [Clockwork.step, clockwork, act, begun, List.append_nil] at rest
        exact decides.decided.unchanged rest refused
  · exact (decides_of_move? asked).decided.unchanged ofPlayer refused

def precipice : Novel where
  id := "precipice"
  scenes := [
    { id := "cliff"
      dialogues := [
        { id := "dialogue-0-0", text := "Jump?"
          choices := [{ id := "leap", text := "Leap", targetSceneId := "nowhere" }] }] }]

theorem refused_unchanged_leap :
    ∃ before after : Session Rehearsal String Unit,
      before.world.position.isTyping = true ∧
        Completes sighting (clockwork Sample.nobody).step [.work (.request (.choose "leap"))] before
          [] after ∧
        after.world.answer = .flag false ∧ before.Unchanged after := by
  obtain ⟨turns, before, _, typing, final, performs⟩ : ∃ turns before,
      run? Sample.nobody 100 (new precipice {} Rehearsal.willing 0 ()) [.start, .update 45] =
          some (turns, before) ∧ before.world.position.isTyping = true ∧
        ∃ after, Performs Sample.nobody before (.choose "leap") [] (.flag false) after :=
    ⟨_, _, rfl, rfl, _, 2, rfl, rfl⟩
  obtain ⟨completes, refused⟩ := performs_iff.mp performs
  have asked : Request.move? before (.choose "leap") = some (before.choose "leap") := rfl
  obtain ⟨_, unchanged⟩ := refused_unchanged asked (.inl completes) refused
  exact ⟨before, final, typing, completes, refused, unchanged⟩

end Session

end VisualNovel.Playback
