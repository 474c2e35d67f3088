import VisualNovel.Proofs.Novel.Places
import VisualNovel.Proofs.Playback.Timekeeping

/-!
# Positions in the novel

A player keeps its position in its novel. A move that changes the position does so at
once, before anybody hears of it, and by what it has just looked up. A transition goes
to its scene only later, when the player may long be elsewhere; but the scene is one of
the novel, wherever the target waits: in what is left to be done or on a timer.
-/

set_option autoImplicit false

namespace VisualNovel.Playback

open VisualNovel.Agenda VisualNovel.Clock VisualNovel.Event VisualNovel.Novel VisualNovel.Sound

variable {β κ η : Type} {novel : Novel}

/-- A position is in a scene of a novel, on one of its lines or at its beginning. -/
def Position.Within (position : Position) (novel : Novel) : Prop :=
  ∃ scene, novel.sceneAt? position.scene = some scene ∧
    (position.dialogue = 0 ∨ ∃ dialogue, scene.dialogueAt? position.dialogue = some dialogue)

private theorem Position.Within.exists_first {position : Position}
    (within : position.Within novel) :
    ∃ scene, novel.sceneAt? 0 = some scene := by
  obtain ⟨scene, here, _⟩ := within
  have bounds := exists_sceneAt?.mp ⟨scene, here⟩
  exact exists_sceneAt?.mpr (by omega)

private theorem Position.Within.exists_next {position : Position} (within : position.Within novel)
    (further : position.scene + 1 < novel.scenes.length) :
    ∃ scene, novel.sceneAt? (position.scene + 1) = some scene := by
  obtain ⟨scene, here, _⟩ := within
  have bounds := exists_sceneAt?.mp ⟨scene, here⟩
  exact exists_sceneAt?.mpr (by omega)

/-- The line after the one at a position, where its scene has another. -/
theorem Position.Within.next {position : Position} (within : position.Within novel)
    (more : ((position.scene? novel).any fun scene =>
      decide (position.dialogue + 1 < scene.dialogues.length)) = true) :
    { position with dialogue := position.dialogue + 1 }.Within novel := by
  obtain ⟨scene, here, line⟩ := within
  have above : 0 ≤ position.dialogue := by
    rcases line with first | found
    · omega
    · exact (exists_itemAt?.mp found).1
  have below : position.dialogue + 1 < scene.dialogues.length := by
    simpa [Position.scene?, here] using more
  exact ⟨scene, here, .inr (exists_itemAt?.mpr ⟨Int.add_nonneg above (by decide), below⟩)⟩

/-- A frame shows a line of a novel, or a scene of the novel that has no lines. -/
structure Frame.Cites (frame : Frame) (novel : Novel) : Prop where
  status : frame.status ≠ .noScene
  scene : ∃ scene, novel.sceneAt? frame.sceneIndex = some scene ∧ frame.sceneId = some scene.id ∧
    ((∃ dialogue, scene.dialogueAt? frame.dialogueIndex = some dialogue ∧
        frame.text = dialogue.text ∧ frame.choices = dialogue.choices ∧
        frame.speaker = speakerOf (novel.character? dialogue.characterId)) ∨
      scene.dialogues = [] ∧ frame.dialogueIndex = 0 ∧ frame.text = "" ∧ frame.choices = [] ∧
        frame.speaker = narrator)

private theorem Position.Within.cites_resolve {position : Position}
    (within : position.Within novel) :
    (resolve novel position.scene position.dialogue).Cites novel := by
  obtain ⟨scene, here, line⟩ := within
  cases there : scene.dialogueAt? position.dialogue with
  | some dialogue =>
      simp only [resolve, here, there]
      exact ⟨nofun, scene, here, rfl, .inl ⟨dialogue, there, rfl, rfl, rfl⟩⟩
  | none =>
      have first : position.dialogue = 0 := by
        rcases line with first | ⟨dialogue, found⟩
        · exact first
        · exact absurd (there.symm.trans found) nofun
      have bare : scene.dialogues = [] := by
        simpa [Scene.dialogueAt?, itemAt?, first] using there
      simp only [resolve, here, there]
      exact ⟨nofun, scene, here, rfl, .inr ⟨bare, first, rfl, rfl, rfl⟩⟩

theorem Position.Within.cites {position : Position} (within : position.Within novel)
    (muted : Bool) : (compose novel position muted).Cites novel := by
  obtain ⟨status, scene⟩ := within.cites_resolve
  unfold compose
  dsimp only
  split
  · exact ⟨nofun, scene⟩
  · exact ⟨status, scene⟩

def Alarm.isAstray (novel : Novel) : Alarm κ → Bool
  | .commit _ target _ => (novel.sceneAt? target).isNone
  | _ => false

def Task.isBound (novel : Novel) : Task κ η → Bool
  | .beginTransition target | .awaitCommit _ target _ | .commit _ target _ =>
      (novel.sceneAt? target).isSome
  | _ => true

namespace Session

/-- A session plays a novel, its position is in it, and so are the scenes its timers are for. -/
structure Located (novel : Novel) (session : Session β κ η) : Prop where
  plays : session.world.novel = novel
  within : session.world.position.Within novel
  alarms : session.timeline.Keeps (Alarm.isAstray novel) none

/-- A session is in its novel, and what is left to be done leads nowhere else. -/
structure Abides (novel : Novel) (decision : Session β κ η × List (Job (Task κ η))) : Prop where
  located : Located novel decision.1
  bound : ∀ job ∈ decision.2, job.all (Task.isBound novel) = true

variable {session next : Session β κ η} {move : Move β κ η}

theorem Located.of_same (located : Located novel session)
    (plays : next.world.novel = session.world.novel)
    (place : next.world.position.place = session.world.position.place)
    (timeline : next.timeline = session.timeline) : Located novel next where
  plays := plays.trans located.plays
  within := by
    obtain ⟨scene, line⟩ := Prod.mk.inj place
    unfold Position.Within
    rw [scene, line]
    exact located.within
  alarms := timeline ▸ located.alarms

/-- At the beginning of a scene of the novel. -/
theorem Located.enter (located : Located novel session) {target : Int} {scene : Scene}
    (found : novel.sceneAt? target = some scene)
    (plays : next.world.novel = session.world.novel)
    (place : next.world.position.place = (target, 0))
    (timeline : next.timeline = session.timeline) : Located novel next where
  plays := plays.trans located.plays
  within := by
    obtain ⟨there, line⟩ := Prod.mk.inj place
    exact ⟨scene, there ▸ found, .inl line⟩
  alarms := timeline ▸ located.alarms

theorem abides_jobs (located : Located novel move.1)
    (bound : ∀ task ∈ move.2, task.isBound novel = true) : Abides novel (jobs move) where
  located := located
  bound := by
    intro job member
    obtain ⟨task, listed, rfl⟩ := List.mem_map.mp member
    exact bound task listed

theorem Located.done (located : Located novel session) : Abides novel (session, []) :=
  ⟨located, by simp⟩

/-! ## Lines -/

theorem Located.withTyped {typed : Typed (Alarm κ)} {timer : Option Nat}
    (located : Located novel session)
    (minds : Typewriter.Minds session.timeline timer typed) :
    Located novel (withTyped session typed) where
  plays := located.plays
  within := located.within
  alarms := minds.others (fun _ => rfl) located.alarms

theorem Located.stopTyping (located : Located novel session) :
    Located novel (stopTyping session) :=
  located.withTyped (Typewriter.minds_cancel _ _)

theorem Located.heed (located : Located novel session) (signals : List Signal) :
    Located novel (heed session signals).1 := by
  induction signals generalizing session with
  | nil => exact located
  | cons signal signals hypothesis =>
      cases signal with
      | progress | complete => exact hypothesis (located.of_same rfl rfl rfl)

theorem Types.located (types : session.Types move) (located : Located novel session) :
    Located novel move.1 := by
  cases types with
  | begins dialogue _ _ =>
      have begun : Located novel (withPosition session fun position =>
          { position with textLength := dialogue.text.length, revealed := 0 }) :=
        located.of_same rfl rfl rfl
      exact (begun.withTyped (Typewriter.minds_start _ _ _)).heed _
  | skips _ skips => exact (located.withTyped (Typewriter.minds_skip? skips)).heed _

/-- What the typewriter tells leads nowhere. -/
theorem bound_heed (session : Session β κ η) {signals : List Signal} (tidy : Tidy signals) :
    ∀ task ∈ (heed session signals).2, task.isBound novel = true := by
  rcases heed_tasks session tidy with none | ⟨scene, line, skipped, tasks⟩
  · simp [none]
  · simp [tasks, Task.isBound]

theorem Types.bound (types : session.Types move) :
    ∀ task ∈ move.2, task.isBound novel = true := by
  cases types with
  | begins dialogue _ _ => exact bound_heed _ (tidy_start _ _ _)
  | skips _ _ => exact bound_heed _ (tidy_singleton _)

theorem Types.abides (types : session.Types move) (located : Located novel session) :
    Abides novel (jobs move) :=
  abides_jobs (types.located located) types.bound

/-! ## Transitions -/

theorem Located.cancelTransition (located : Located novel session) :
    Located novel (cancelTransition session) where
  plays := located.plays
  within := located.within
  alarms := located.alarms.cancel? session.world.transition

theorem Located.setPhase (located : Located novel session) (delay : Int) (label : String)
    {alarm : Alarm κ} (bound : alarm.isAstray novel = false) :
    Located novel (setPhase session delay label alarm) where
  plays := located.plays
  within := located.within
  alarms := located.alarms.later_other delay label bound

theorem Located.stopPlayer (located : Located novel session) :
    Located novel (stopPlayer session).2 := by
  unfold Session.stopPlayer
  split
  · exact located
  · have stopped : Located novel (withStage session fun stage => { stage with stopped := true }) :=
      located.of_same rfl rfl rfl
    exact stopped.stopTyping.cancelTransition

/-! ## Moves -/

theorem abides_refuse (located : Located novel session) : Abides novel (jobs (refuse session)) :=
  abides_jobs located (by simp [refuse, Task.isBound])

private theorem Types.abides_replied (types : session.Types move)
    (located : Located novel session) :
    Abides novel (jobs (move.1, move.2 ++ [.reply (.flag true)])) := by
  refine abides_jobs (types.located located) fun task listed => ?_
  rcases List.mem_append.mp listed with typed | replied
  · exact types.bound task typed
  · rw [List.mem_singleton.mp replied]
    rfl

theorem abides_start (located : Located novel session) : Abides novel (jobs (start session)) := by
  unfold start
  dsimp only
  split
  · exact abides_refuse located
  split
  · exact abides_refuse (located.of_same rfl rfl rfl)
  · exact abides_jobs (located.of_same rfl rfl rfl) (by simp [Task.isBound])

theorem abides_startTyping (located : Located novel session) :
    Abides novel (jobs (startTyping session)) := by
  unfold startTyping
  cases types : session.typeLine? with
  | none => exact abides_refuse located
  | some move => exact (types_of_typeLine? types).abides_replied located

theorem abides_skipTyping (located : Located novel session) :
    Abides novel (jobs (skipTyping session)) := by
  unfold skipTyping
  dsimp only
  split
  · next typing =>
      simp only [Bool.and_eq_true] at typing
      cases skips : session.world.typewriter.skip? session.timeline with
      | none => exact abides_refuse located
      | some skipped => exact (Types.skips typing.2 skips).abides_replied located
  · exact abides_refuse located

private theorem abides_finish (located : Located novel session) :
    Abides novel (jobs (finish session)) := by
  have finished : Located novel (withPosition (Session.stopTyping session) fun position =>
      { position with finished := true }) := located.stopTyping.of_same rfl rfl rfl
  exact abides_jobs finished (by simp [finish, Task.isBound])

/-- The next line is looked for before the position moves on to it, and so is the next scene. -/
theorem abides_advance (located : Located novel session) :
    Abides novel (jobs (advance session)) := by
  unfold advance
  dsimp only
  split
  · exact abides_refuse located
  split
  · exact abides_skipTyping located
  split
  · exact abides_refuse located
  split
  · next more =>
      refine abides_jobs ⟨located.plays, located.within.next ?_, located.alarms⟩
        (by simp [Task.isBound])
      simpa [Stage.scene?, located.plays] using more
  split
  · next further =>
      rw [located.plays] at further
      obtain ⟨there, found⟩ := located.within.exists_next further
      exact abides_jobs located (by simp [Task.isBound, found])
  · exact abides_finish located

/-- A choice leads to no scene but those of the novel. -/
theorem abides_choose (located : Located novel session) (choiceId : String) :
    Abides novel (jobs (choose session choiceId)) := by
  unfold choose
  dsimp only
  split
  · exact abides_refuse located
  cases session.world.dialogue?.bind fun dialogue => dialogue.choice? choiceId with
  | none => exact abides_refuse located
  | some choice =>
      dsimp only
      cases found : session.world.novel.sceneIndex? choice.targetSceneId with
      | none => exact abides_refuse located
      | some target =>
          obtain ⟨scene, there⟩ := sceneAt?_of_sceneIndex? found
          rw [located.plays] at there
          exact abides_jobs located (by simp [Task.isBound, there])

theorem abides_restart (located : Located novel session) :
    Abides novel (jobs (restart session)) := by
  unfold restart
  dsimp only
  split
  · exact abides_refuse located
  · obtain ⟨scene, first⟩ := located.within.exists_first
    refine abides_jobs (located.stopTyping.cancelTransition.enter first rfl rfl rfl) ?_
    simp [Task.isBound]

end Session

end VisualNovel.Playback
