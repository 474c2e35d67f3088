import VisualNovel.Proofs.Novel.Places
import VisualNovel.Proofs.Playback.Player.Ticks

/-!
# What requests do to a coherent player

Every request is refused, does something about the line, or makes one of the moves
of a playback: to the next line, off to another scene, to the end, or back to the
beginning. Each of these leaves the player coherent.
-/

set_option autoImplicit false

namespace VisualNovel.Playback.Player

open VisualNovel.Clock VisualNovel.Novel

variable {κ : Type} {player next : Player κ} {strike phase following : Option (Timer (Alarm κ))}

theorem Coherent.phase_eq_none (coherent : player.Coherent strike phase)
    (still : player.position.transitioning = false) : phase = none := by
  rw [coherent.crossing.transitioning] at still
  exact Option.isSome_eq_false_iff.mp still |> Option.isNone_iff_eq_none.mp

/-- A line is being typed exactly while the timer for its next character is waited for. -/
theorem Coherent.isTyping_eq (coherent : player.Coherent strike phase) :
    player.position.isTyping = strike.isSome := by
  cases same : strike with
  | none =>
      have idle := coherent.lined.reveals.idle same
      simp [Position.isTyping, idle]
  | some timer =>
      obtain ⟨dialogue, found, text, revealed, left⟩ :=
        coherent.lined.reveals.busy (by simp [same])
      have length := coherent.lined.length
      have unfinished : player.position.finished = false := by
        rw [Bool.eq_false_iff]
        intro finished
        have closed := (coherent.closed finished).1
        simp [same] at closed
      unfold lineLength at length
      unfold Reveal.total at left
      rw [found] at length
      rw [text] at left
      simp [Position.isTyping, unfinished, revealed, length, left]

/-! ## The line -/

theorem Coherent.typeLine (coherent : player.Coherent strike phase)
    (typed : player.typeLine? = some next) :
    ∃ begun, next.Coherent begun phase ∧ Types player next := by
  obtain ⟨dialogue, found, _, unfinished, rfl⟩ := typeLine?_eq_some typed
  obtain ⟨begun, lined⟩ := coherent.lined.waits.typeLine found
  have types := types_typeLine player dialogue
  exact ⟨begun, lined.coherent types.stays coherent.started coherent.placed coherent.crossing
    unfinished, types⟩

theorem Coherent.skip (coherent : player.Coherent strike phase)
    (skipped : player.skip? = some next) : next.Coherent none phase ∧ Types player next := by
  have types := types_skip skipped
  have typing : player.position.isTyping = true := by
    unfold skip? at skipped
    split at skipped
    · next active => exact (Bool.and_eq_true _ _ ▸ active).2
    · contradiction
  have unfinished : player.position.finished = false := by
    simp only [Position.isTyping, Bool.and_eq_true, Bool.not_eq_true'] at typing
    exact typing.1
  exact ⟨(coherent.lined.skip skipped).coherent types.stays coherent.started coherent.placed
    coherent.crossing unfinished, types⟩

/-- Going on to the next line leaves a player coherent. -/
theorem Coherent.nextLine {scene : Scene} (coherent : player.Coherent strike phase)
    (unfinished : player.position.finished = false) (found : player.scene? = some scene)
    (more : player.position.dialogue + 1 < scene.dialogues.length) :
    ∃ begun, player.nextLine.enterDialogue.Coherent begun phase ∧
      Stays player.nextLine player.nextLine.enterDialogue ∧
      Continues player player.nextLine.enterDialogue := by
  have waits : player.nextLine.Waits strike phase := coherent.lined.waits.congr rfl rfl rfl
  obtain ⟨begun, lined, stays, tells⟩ := waits.enterDialogue coherent.started unfinished
  have within : 0 ≤ player.position.dialogue := by
    obtain ⟨_, _, place⟩ := coherent.placed
    omega
  refine ⟨begun, lined.coherent stays coherent.started ?_ ?_ unfinished, stays,
    tells.continues (begins_lineEvents _)⟩
  · refine ⟨scene, found, .inr ⟨?_, more⟩⟩
    show 0 < player.position.dialogue + 1
    omega
  · exact coherent.crossing.congr rfl rfl rfl rfl

/-! ## The end and the beginning -/

theorem Coherent.finish (coherent : player.Coherent strike none)
    (noMenu : player.dialogue?.any Dialogue.hasChoices = false)
    (revealed : player.position.isTyping = false) :
    player.finish.Coherent none none := by
  obtain rfl : strike = none := by
    rw [coherent.isTyping_eq] at revealed
    exact Option.isSome_eq_false_iff.mp revealed |> Option.isNone_iff_eq_none.mp
  have waits := coherent.lined.waits.stopTyping
  exact ⟨coherent.started, ⟨waits.congr rfl rfl rfl, ⟨stopTyping_complete player,
    coherent.lined.reveals.idle, fun impossible => absurd rfl impossible⟩, coherent.lined.length⟩,
    coherent.placed, coherent.crossing.congr rfl rfl rfl rfl, fun _ => ⟨rfl, rfl, noMenu⟩⟩

/-- Entering the first scene leaves a player coherent. -/
theorem Waits.opening {scene : Scene} (waits : player.Waits none none)
    (started : player.started = true) (position : player.position = {})
    (found : player.novel.sceneAt? 0 = some scene) :
    ∃ begun, player.enterScene.Coherent begun none ∧ Stays player player.enterScene ∧
      Continues player player.enterScene := by
  have unfinished : player.position.finished = false := by rw [position]
  have crossing : player.Crossing none :=
    ⟨by rw [position]; rfl, by rw [position]; rfl, fun _ impossible => by contradiction⟩
  have placed : player.Placed := by
    have here : player.scene? = some scene := by
      unfold Player.scene? Position.scene?
      rwa [position]
    exact placed_of_beginning here (by rw [position])
  obtain ⟨begun, lined, stays, tells⟩ := waits.enterScene started unfinished (by rw [position])
  refine ⟨begun, lined.coherent stays started placed crossing unfinished, stays,
    tells.continues ?_⟩
  intro event member
  rcases List.mem_cons.mp member with rfl | member
  · rfl
  · exact begins_lineEvents player event member

structure Unstarted (player : Player κ) : Prop where
  started : player.started = false
  position : player.position = {}
  waits : player.Waits none none

theorem Unstarted.start (unstarted : player.Unstarted)
    (nonempty : player.novel.scenes.isEmpty = false) :
    ∃ begun, ({ player with started := true } : Player κ).enterScene.Coherent begun none ∧
      Stays ({ player with started := true } : Player κ)
        ({ player with started := true } : Player κ).enterScene ∧
      Continues player ({ player with started := true } : Player κ).enterScene := by
  have length : 0 < player.novel.scenes.length := by
    simpa [List.length_pos_iff] using nonempty
  obtain ⟨scene, found⟩ := exists_sceneAt?.mpr
    (by omega : (0 : Int) ≤ 0 ∧ (0 : Int) < player.novel.scenes.length)
  have waits : ({ player with started := true } : Player κ).Waits none none :=
    unstarted.waits.congr rfl rfl rfl
  exact waits.opening rfl unstarted.position found

theorem Coherent.restart (coherent : player.Coherent strike phase) :
    ∃ begun, player.rewind.enterScene.Coherent begun none ∧
      Stays player.rewind player.rewind.enterScene ∧
      Continues player player.rewind.enterScene := by
  obtain ⟨current, here, _⟩ := coherent.placed
  have inside := exists_sceneAt?.mp ⟨current, here⟩
  obtain ⟨scene, found⟩ := exists_sceneAt?.mpr
    (by omega : (0 : Int) ≤ 0 ∧ (0 : Int) < player.novel.scenes.length)
  have waits : player.rewind.Waits none none :=
    coherent.lined.waits.stopTyping.cancelTransition.congr rfl rfl rfl
  obtain ⟨begun, after, stays, continues⟩ := waits.opening coherent.started rfl found
  have rewinds : Continues player player.rewind := continues_emit _ rfl
  exact ⟨begun, after, stays, rewinds.trans continues⟩

/-! ## Off to another scene -/

theorem Lined.depart (lined : player.Lined strike phase) (target : Int) :
    (player.depart target).Lined none none := by
  have waits := lined.waits.stopTyping.cancelTransition
  exact ⟨waits.congr rfl rfl rfl, ⟨stopTyping_complete player, fun _ => rfl,
    fun impossible => absurd rfl impossible⟩, lined.length⟩

def embark (player : Player κ) (target : Int) : Player κ :=
  (player.depart target).emit
    (.transitionStart player.position.scene target (player.styleOf target))

theorem beginTransition_eq (player : Player κ) (target : Int) :
    player.beginTransition target =
      (player.embark target).awaitCommit (player.embark target).generation target
        (player.timingOf target) := rfl

inductive Departs (ready next : Player κ) (target : Int) (timing : Timing) :
    Option (Timer (Alarm κ)) → Prop where
  | wait {timer : Timer (Alarm κ)} :
      0 < timing.commit → timer.due = ready.now + timing.commit →
      timer.payload = .commit ready.generation target timing →
      next = ready.setPhase timing.commit "transition.commit" timer.payload →
      Departs ready next target timing (some timer)
  | arrive {following : Option (Timer (Alarm κ))} :
      timing.commit ≤ 0 → Arrives ready next target timing following →
      Departs ready next target timing following

/-- Leaving for a scene leaves a player coherent, with the next phase waited for. -/
theorem Coherent.beginTransition {target : Int} {scene : Scene}
    (coherent : player.Coherent strike phase) (unfinished : player.position.finished = false)
    (found : player.novel.sceneAt? target = some scene) :
    ∃ begun following, (player.beginTransition target).Coherent begun following ∧
      Departs (player.embark target) (player.beginTransition target) target
        (player.timingOf target) following := by
  have lined : (player.embark target).Lined none none :=
    (coherent.lined.depart target).withPhase
      ((coherent.lined.depart target).waits.congr rfl rfl rfl) rfl rfl rfl rfl rfl
  rw [beginTransition_eq]
  unfold awaitCommit
  by_cases instant : (player.timingOf target).commit ≤ 0
  · rw [if_pos instant]
    have waits : ((player.embark target).swap target).Waits none none :=
      lined.waits.congr rfl rfl rfl
    obtain ⟨begun, following, after, arrives⟩ := waits.commit coherent.started unfinished rfl rfl
      found (player.timingOf target)
    exact ⟨begun, following, after, .arrive instant arrives⟩
  · rw [if_neg instant]
    have delay : max 0 (player.timingOf target).commit = (player.timingOf target).commit := by
      omega
    have waits := lined.waits.setPhase (player.timingOf target).commit "transition.commit"
      (.commit (player.embark target).generation target (player.timingOf target))
    refine ⟨none, some _, ⟨coherent.started, lined.withPhase waits rfl rfl rfl rfl rfl,
      coherent.placed, ⟨rfl, rfl, ?_⟩, ?_⟩, .wait (by omega) ?_ rfl rfl⟩
    · intro timer which
      obtain rfl := Option.some.inj which
      exact .commit rfl rfl found
    · intro finished
      exact absurd (unfinished.symm.trans finished) Bool.false_ne_true
    · rw [delay]

end VisualNovel.Playback.Player
