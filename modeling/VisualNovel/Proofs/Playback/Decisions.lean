import VisualNovel.Proofs.Playback.Simulation

/-!
# What players decide

A player that is asked for a move refuses it, or makes one of a few moves, each
under conditions of its own. Here they are told one by one, for a player in any
state and whoever asks.
-/

set_option autoImplicit false

namespace VisualNovel.Playback

open VisualNovel.Agenda VisualNovel.Clock VisualNovel.Novel VisualNovel.Sound

variable {β κ η : Type}

def Request.move? (session : Session β κ η) : Request κ → Option (Session.Move β κ η)
  | .start => some session.start
  | .advance => some session.advance
  | .choose choiceId => some (session.choose choiceId)
  | .restart => some session.restart
  | .startTyping => some session.startTyping
  | .skipTyping => some session.skipTyping
  | _ => none

namespace Session

inductive Types (session : Session β κ η) : Move β κ η → Prop where
  | begins (dialogue : Dialogue) : session.world.isActive = true →
      session.world.position.finished = false →
      Types session (heed
        (withTyped
          (withPosition session fun position =>
            { position with textLength := dialogue.text.length, revealed := 0 })
          (session.world.typewriter.start .strike dialogue.text session.timeline).2)
        (session.world.typewriter.start .strike dialogue.text session.timeline).1)
  | skips {skipped : Signal × Typed (Alarm κ)} : session.world.position.isTyping = true →
      session.world.typewriter.skip? session.timeline = some skipped →
      Types session (heed (withTyped session skipped.2) [skipped.1])

/-- What a player decides when it is asked for a move. -/
inductive Decides (session : Session β κ η) : Move β κ η → Prop where
  | refuses : Decides session (refuse session)
  | nothingToPlay :
      Decides session (refuse (withStage session fun stage =>
        { stage with warnings := .noScenes stage.novel.label :: stage.warnings }))
  | starts : session.world.started = false →
      Decides session (withStage session fun stage => { stage with started := true },
        [.enterScene, .reply (.flag true)])
  | types {move : Move β κ η} : session.Types move →
      Decides session (move.1, move.2 ++ [.reply (.flag true)])
  | follows : session.world.position.finished = false →
      Decides session (withPosition session fun position =>
          { position with dialogue := position.dialogue + 1 },
        [.enterDialogue, .reply (.flag true)])
  | crosses (target : Int) : session.world.position.finished = false →
      session.world.position.transitioning = false →
      Decides session (session, [.beginTransition target, .reply (.flag true)])
  | picks (choice : Choice) (target : Nat) : session.world.position.finished = false →
      session.world.position.transitioning = false →
      Decides session (session,
        [.emit (.choiceSelect choice target), .beginTransition target, .reply (.flag true)])
  | ends : session.world.isActive = true → session.world.position.finished = false →
      session.world.position.transitioning = false → session.world.position.isTyping = false →
      Decides session (finish session)
  | restarts : session.world.isActive = true → session.world.position.finished = true →
      Decides session (withPosition (cancelTransition (stopTyping session)) fun _ => {},
        [.emit .restarted, .enterScene, .reply (.flag true)])

variable {session : Session β κ η} {move : Move β κ η}

theorem types_of_typeLine? (types : session.typeLine? = some move) : session.Types move := by
  unfold typeLine? at types
  dsimp only at types
  split at types
  · contradiction
  · next dialogue _ =>
      split at types
      · contradiction
      · next playing =>
          simp only [Bool.or_eq_true, Bool.not_eq_true', not_or, Bool.not_eq_false,
            Bool.not_eq_true] at playing
          obtain rfl := Option.some.inj types
          exact .begins dialogue playing.1 playing.2

private theorem decides_start (session : Session β κ η) : session.Decides session.start := by
  unfold start
  dsimp only
  split
  · exact .refuses
  · next idle =>
      simp only [Bool.or_eq_true, not_or, Bool.not_eq_true] at idle
      split
      · exact .nothingToPlay
      · exact .starts idle.2

private theorem decides_startTyping (session : Session β κ η) :
    session.Decides session.startTyping := by
  unfold startTyping
  cases types : session.typeLine? with
  | none => exact .refuses
  | some move => exact .types (types_of_typeLine? types)

private theorem decides_skipTyping (session : Session β κ η) :
    session.Decides session.skipTyping := by
  unfold skipTyping
  dsimp only
  split
  · next typing =>
      simp only [Bool.and_eq_true] at typing
      cases skips : session.world.typewriter.skip? session.timeline with
      | none => exact .refuses
      | some skipped => exact .types (.skips typing.2 skips)
  · exact .refuses

private theorem decides_advance (session : Session β κ η) : session.Decides session.advance := by
  unfold advance
  dsimp only
  split
  · exact .refuses
  next playing =>
    simp only [Bool.or_eq_true, Bool.not_eq_true', not_or, Bool.not_eq_false,
      Bool.not_eq_true] at playing
    obtain ⟨⟨active, going⟩, settled⟩ := playing
    split
    · exact decides_skipTyping session
    next shown =>
      split
      · exact .refuses
      split
      · exact .follows going
      split
      · exact .crosses _ going settled
      · exact .ends active going settled (Bool.eq_false_of_not_eq_true shown)

private theorem decides_choose (session : Session β κ η) (choiceId : String) :
    session.Decides (session.choose choiceId) := by
  unfold choose
  dsimp only
  split
  · exact .refuses
  next playing =>
    simp only [Bool.or_eq_true, Bool.not_eq_true', not_or, Bool.not_eq_false,
      Bool.not_eq_true] at playing
    obtain ⟨⟨_, going⟩, settled⟩ := playing
    cases session.world.dialogue?.bind fun dialogue => dialogue.choice? choiceId with
    | none => exact .refuses
    | some choice =>
        dsimp only
        cases session.world.novel.sceneIndex? choice.targetSceneId with
        | none => exact .refuses
        | some target => exact .picks choice target going settled

private theorem decides_restart (session : Session β κ η) : session.Decides session.restart := by
  unfold restart
  dsimp only
  split
  · exact .refuses
  · next ended =>
      simp only [Bool.or_eq_true, Bool.not_eq_true', not_or, Bool.not_eq_false] at ended
      exact .restarts ended.1 ended.2

theorem decides_of_move? {made : Request κ} (asked : made.move? session = some move) :
    session.Decides move := by
  cases made with
  | start => exact Option.some.inj asked ▸ decides_start session
  | advance => exact Option.some.inj asked ▸ decides_advance session
  | choose choiceId => exact Option.some.inj asked ▸ decides_choose session choiceId
  | restart => exact Option.some.inj asked ▸ decides_restart session
  | startTyping => exact Option.some.inj asked ▸ decides_startTyping session
  | skipTyping => exact Option.some.inj asked ▸ decides_skipTyping session
  | toggleMute | update | close | stop | flush | cancelTimers | later | setMuted | frame
  | statistics | isClosed | gesture => contradiction

/-- An open session asks its player; a closed one refuses at once. -/
theorem decides_begin [Device β] [DecidableEq κ] {made : Request κ}
    (asked : made.move? session = some move) :
    ∃ decision, begin session made = jobs decision ∧ session.Decides decision := by
  have decides := decides_of_move? asked
  have guarded : session.Decides (whenOpen session move) := by
    unfold whenOpen
    split
    · exact .refuses
    · exact decides
  cases made with
  | start | advance | choose | restart =>
      obtain rfl := Option.some.inj asked
      exact ⟨_, rfl, guarded⟩
  | startTyping | skipTyping =>
      obtain rfl := Option.some.inj asked
      exact ⟨_, rfl, decides⟩
  | toggleMute | update | close | stop | flush | cancelTimers | later | setMuted | frame
  | statistics | isClosed | gesture => contradiction

/-- At most one event is told of a line, that it is complete. -/
theorem heed_tasks (session : Session β κ η) {signals : List Signal} (tidy : Tidy signals) :
    (heed session signals).2 = [] ∨
      ∃ scene line skipped,
        (heed session signals).2 = [.emit (.typingComplete scene line skipped)] := by
  induction signals generalizing session with
  | nil => exact .inl rfl
  | cons signal signals hypothesis =>
      cases signal with
      | progress revealed => exact hypothesis _ tidy
      | complete skipped =>
          obtain rfl : signals = [] := tidy
          exact .inr ⟨_, _, skipped, rfl⟩

theorem Types.tasks (types : session.Types move) :
    move.2 = [] ∨
      ∃ scene line skipped, move.2 = [.emit (.typingComplete scene line skipped)] := by
  cases types with
  | begins dialogue _ _ => exact heed_tasks _ (tidy_start _ _ _)
  | skips _ _ => exact heed_tasks _ (tidy_singleton _)

end Session

end VisualNovel.Playback
