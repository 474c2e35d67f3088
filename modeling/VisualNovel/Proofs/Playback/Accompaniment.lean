import VisualNovel.Proofs.Playback.Player.Score
import VisualNovel.Proofs.Sound.Attunement

/-!
# Sound that follows what is told

Three slots that hear of scenes, lines and the end hold what belongs to the scene
and the line told last. Muting them changes nothing of that.
-/

set_option autoImplicit false

namespace VisualNovel.Playback

open VisualNovel.Novel VisualNovel.Sound

namespace Score

def reference (score : Score) : Channel → Option String
  | .music => named? (score.scene.bind (·.bgmUrl))
  | .voice => named? (score.line.bind (·.voiceUrl))
  | .sfx => named? (score.line.bind (·.sfxUrl))

def pauses (score : Score) : Channel → Bool
  | .music => score.ended
  | .voice | .sfx => false

end Score

variable {β : Type} {clean : β → Prop} {plays : Clip → Prop} {coordinator : Coordinator β}

abbrev Accords (clean : β → Prop) (plays : Clip → Prop) (score : Score)
    (coordinator : Coordinator β) : Prop :=
  coordinator.Tuned clean plays score.reference score.pauses

theorem accords_new (clean : β → Prop) (plays : Clip → Prop) (device : β)
    (music voice sfx : Float) (muted : Bool) :
    Accords clean plays {} (Coordinator.new device music voice sfx muted) where
  isOpen := rfl
  slots channel := by cases channel <;> exact .of_empty _ plays false rfl

variable [Device β] [Faithful β] {score : Score}

theorem Accords.finish (accords : Accords clean plays score coordinator)
    (obliging : Obliging clean plays) (scene line : Int) :
    Accords clean plays (score.after (.finished scene line)) coordinator.finish := by
  have paused := accords.put .music ((accords.slots .music).pause obliging)
  have released := (paused.release obliging.toCandid .voice false).release obliging.toCandid
    .sfx false
  rw [Coordinator.finish, if_neg (by simp [accords.isOpen])]
  refine released.mono fun channel sounds => ?_
  cases channel <;> exact sounds

theorem Accords.enterDialogue (accords : Accords clean plays score coordinator)
    (obliging : Obliging clean plays) (scene line : Int) (dialogue : Dialogue) :
    Accords clean plays (score.after (.dialogueEnter scene line dialogue))
      (coordinator.enterDialogue (some dialogue)) := by
  have replaced := (accords.replace obliging .voice dialogue.voiceUrl).replace obliging .sfx
    dialogue.sfxUrl
  rw [Coordinator.enterDialogue, if_neg (by simp [accords.isOpen])]
  refine replaced.mono fun channel sounds => ?_
  cases channel <;> exact sounds

/-- The slots follow into a scene. -/
theorem Accords.enterScene (accords : Accords clean plays score coordinator)
    (obliging : Obliging clean plays) (index : Int) (scene : Option Scene) :
    Accords clean plays (score.after (.sceneEnter index scene))
      (coordinator.enterScene scene) := by
  let entered := score.after (.sceneEnter index scene)
  -- only the music is left to be changed once the line before is quiet where it has to be
  have quieted : (if (scene.map (·.dialogues)).getD [] |>.isEmpty then
      (coordinator.release .voice).release .sfx else coordinator).Tuned clean plays
        (Function.update entered.reference .music (score.reference .music))
        (Function.update entered.pauses .music score.ended) := by
    split
    · next empty =>
        have hushed := (accords.release obliging.toCandid .voice false).release
          obliging.toCandid .sfx false
        refine hushed.mono fun channel sounds => ?_
        cases channel with
        | music => exact sounds
        | voice | sfx =>
            simpa [entered, Score.after, Score.reference, Score.pauses, empty, named?]
              using sounds
    · next lines =>
        refine accords.mono fun channel sounds => ?_
        cases channel with
        | music => exact sounds
        | voice | sfx =>
            simpa [entered, Score.after, Score.reference, Score.pauses, lines] using sounds
  rw [Coordinator.enterScene, if_neg (by simp [accords.isOpen])]
  dsimp only
  generalize (if (scene.map (·.dialogues)).getD [] |>.isEmpty then
    (coordinator.release .voice).release .sfx else coordinator) = between at quieted ⊢
  have held : between.music.Sounds (clean between.desk.device) plays (score.reference .music)
      score.ended := quieted.slots .music
  have turn {next : Coordinator β} {reference : Option String}
      (same : named? (scene.bind (·.bgmUrl)) = reference)
      (tuned : next.Tuned clean plays
        (Function.update (Function.update entered.reference .music (score.reference .music))
          .music reference)
        (Function.update (Function.update entered.pauses .music score.ended) .music false)) :
      Accords clean plays entered next := by
    subst same
    refine tuned.mono fun channel sounds => ?_
    cases channel <;> exact sounds
  cases named : named? (scene.bind (·.bgmUrl)) with
  | none => exact turn named (quieted.release obliging.toCandid .music false)
  | some url =>
      dsimp only
      split
      · next same =>
          have reference : score.reference .music = some url := by
            rcases held.holds with holds | ⟨empty, _⟩
            · exact holds.symm.trans same
            · exact absurd (empty.symm.trans same) (by simp)
          rw [reference] at held
          exact turn named (quieted.put .music (held.resume obliging))
      · exact turn named (quieted.acquire obliging .music url true)

theorem Accords.setMuted (accords : Accords clean plays score coordinator)
    (obliging : Obliging clean plays) (muted : Bool) :
    Accords clean plays score (coordinator.setMuted muted) := by
  have flagged : Accords clean plays score { coordinator with muted } :=
    ⟨accords.isOpen, fun channel => by
      cases channel with
      | music => exact accords.slots .music
      | voice => exact accords.slots .voice
      | sfx => exact accords.slots .sfx⟩
  exact ((flagged.setSlotMuted obliging .music muted).setSlotMuted obliging .voice
    muted).setSlotMuted obliging .sfx muted

end VisualNovel.Playback
