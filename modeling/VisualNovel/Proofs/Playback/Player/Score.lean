import VisualNovel.Proofs.Playback.Player.Utterance

/-!
# What can be known of a player by listening

Who hears of scenes, lines and the end only, knows all the same in which scene and
on which line a player is and whether it is at the end: whatever the player does,
it says enough.
-/

set_option autoImplicit false

namespace VisualNovel.Playback

open VisualNovel.Clock VisualNovel.Novel

/-- The scene and the line that were told last, and whether the end was told since. A line is left
behind at the end, and at once for a scene that has none. -/
structure Score where
  scene : Option Scene := none
  line : Option Dialogue := none
  ended : Bool := false

namespace Score

def after (score : Score) : Event → Score
  | .sceneEnter _ scene =>
      { scene
        line := if ((scene.map (·.dialogues)).getD []).isEmpty then none else score.line }
  | .dialogueEnter _ _ dialogue => { score with line := some dialogue }
  | .finished _ _ => { score with line := none, ended := true }
  | _ => score

theorem after_of_not_isPlaced (score : Score) (event : Event) (other : event.isPlaced = false) :
    score.after event = score := by
  cases event <;> first | rfl | contradiction

private theorem foldl_after_entryEvents (score : Score) (novel : Novel) (scene : Int) :
    (entryEvents novel scene).foldl after score =
      ⟨novel.sceneAt? scene, novel.dialogueAt? scene 0, false⟩ := by
  unfold entryEvents
  cases first : novel.dialogueAt? scene 0 with
  | some dialogue => rfl
  | none =>
      have empty : (((novel.sceneAt? scene).map (·.dialogues)).getD []).isEmpty = true := by
        cases found : novel.sceneAt? scene with
        | none => rfl
        | some scene =>
            simp only [dialogueAt?, found, Option.bind_eq_bind, Option.bind_some] at first
            simpa [Scene.dialogueAt?, itemAt?] using first
      simp only [Option.map_none, Option.toList_none, List.foldl_cons, List.foldl_nil, after,
        empty, if_true]

end Score

namespace Player

variable {κ : Type} {player middle next : Player κ}
  {strike phase following : Option (Timer (Alarm κ))}

def score (player : Player κ) : Score :=
  ⟨player.scene?, if player.position.finished then none else player.dialogue?,
    player.position.finished⟩

/-- A player that has become another one has said so much that the new place is known. -/
def Scores (player next : Player κ) : Prop :=
  ∃ events, Utters player next events ∧ events.foldl Score.after player.score = next.score

theorem Scores.refl (player : Player κ) : Scores player player :=
  ⟨[], .silent rfl, rfl⟩

theorem Scores.trans (first : Scores player middle) (second : Scores middle next) :
    Scores player next := by
  obtain ⟨events, utters, known⟩ := first
  obtain ⟨later, uttersLater, knownLater⟩ := second
  exact ⟨events ++ later, utters.trans uttersLater, by rw [List.foldl_append, known, knownLater]⟩

theorem score_congr (novel : next.novel = player.novel) (place : next.place = player.place)
    (finished : next.position.finished = player.position.finished) :
    next.score = player.score := by
  simp only [Player.place, Position.place, Prod.mk.injEq] at place
  simp only [score, Player.scene?, Player.dialogue?, Position.scene?, Position.dialogue?, novel,
    place, finished]

private theorem score_of_entry {scene : Int} (place : next.place = (scene, 0))
    (unfinished : next.position.finished = false) :
    next.score = ⟨next.novel.sceneAt? scene, next.novel.dialogueAt? scene 0, false⟩ := by
  simp only [Player.place, Position.place, Prod.mk.injEq] at place
  simp only [score, Player.scene?, Player.dialogue?, Position.scene?, Position.dialogue?, place,
    unfinished, Bool.false_eq_true, if_false]

theorem Types.scores (types : Types player next) : Scores player next :=
  ⟨[], types.utters, (score_congr types.stays.novel types.stays.place types.stays.finished).symm⟩

theorem Utters.scores {scene : Int} (utters : Utters player next (entryEvents player.novel scene))
    (novel : next.novel = player.novel) (place : next.place = (scene, 0))
    (unfinished : next.position.finished = false) : Scores player next := by
  refine ⟨_, utters, ?_⟩
  rw [Score.foldl_after_entryEvents, score_of_entry place unfinished, novel]

theorem Tick.scores (tick : Tick (player, phase) (next, following)) : Scores player next := by
  cases tick with
  | settle _ => exact ⟨[], .silent rfl, rfl⟩
  | types _ types => exact types.scores
  | arrives _ _ _ arrives =>
      exact arrives.utters.scores arrives.novel arrives.place arrives.unfinished
  | ends _ _ _ =>
      rw [clear_eq]
      exact ⟨[], utters_emit _ _, rfl⟩

theorem Ticks.scores (ticks : player.Ticks phase next following) : Scores player next :=
  ticks.invariant (fun state _ => Scores player state) (.refl player)
    fun held tick => held.trans tick.scores

theorem Departs.scores {target : Int} {timing : Timing} (novel : next.novel = player.novel)
    (departs : Departs player next target timing phase) : Scores player next := by
  rcases departs.utters with ⟨utters, place, finished⟩ | ⟨utters, place, unfinished⟩
  · exact ⟨[], utters, (score_congr novel place finished).symm⟩
  · exact utters.scores novel place unfinished

theorem Leaves.scores {made : Request κ} {target : Int} {ready : Player κ}
    (leaves : player.Leaves made target ready) : Scores player (ready.embark target) := by
  refine ⟨[], leaves.utters, ?_⟩
  cases leaves <;> rfl

private theorem Coherent.scores_line (coherent : player.Coherent strike phase)
    (unfinished : player.position.finished = false) (more : player.hasNextLine = true) :
    Scores player player.nextLine.enterDialogue := by
  obtain ⟨scene, found, within⟩ := coherent.placed
  have longer : player.position.dialogue + 1 < scene.dialogues.length := by
    simpa [hasNextLine, found] using more
  obtain ⟨dialogue, line⟩ : ∃ dialogue,
      scene.dialogueAt? (player.position.dialogue + 1) = some dialogue :=
    exists_itemAt?.mpr ⟨by omega, longer⟩
  obtain ⟨_, _, stays, _⟩ := coherent.nextLine unfinished found longer
  have here : player.nextLine.dialogue? = some dialogue :=
    Option.bind_eq_some_iff.mpr ⟨scene, found, line⟩
  have goesOn : player.nextLine.position.finished = false := unfinished
  refine ⟨_, coherent.utters_line unfinished, ?_⟩
  rw [score_congr stays.novel stays.place stays.finished]
  simp only [lineEvents, here, Option.map_some, Option.toList_some, List.foldl_cons,
    List.foldl_nil, Score.after, score, goesOn, unfinished, Bool.false_eq_true, if_false]
  rfl

private theorem Coherent.scores_restart (coherent : player.Coherent strike phase) :
    Scores player player.rewind.enterScene := by
  have waits : player.rewind.Waits none none :=
    coherent.lined.waits.stopTyping.cancelTransition.congr rfl rfl rfl
  obtain ⟨_, _, stays, _⟩ := coherent.restart
  have rewound : Utters player player.rewind [] := utters_emit
    (player.stopTyping.cancelTransition.withPosition fun _ => {}) _
  have said := rewound.trans (waits.utters_opening coherent.started rfl)
  exact said.scores stays.novel stays.place stays.finished

/-- After any request the place of a player is known from what it has told. -/
theorem Coherent.scores (coherent : player.Coherent strike phase) (rested : player.Rested phase)
    (made : Request κ) : Scores player (player.respond made).2 := by
  obtain ⟨_, following, _, _, turned⟩ := coherent.comes rested made
  have constant := turned.constant
  generalize same : (player.respond made).2 = next at turned constant ⊢
  generalize (player.respond made).1 = answer at turned
  cases turned with
  | types types => exact types.scores
  | ticks ticks => exact ticks.scores
  | line ended more _ _ =>
      rw [← same]
      show Scores player player.advance.2
      rw [ended.advance_line coherent.started more]
      exact coherent.scores_line ended.unfinished more
  | leaves _ _ leaves departs =>
      have novel := constant.1.trans leaves.constant.1.symm
      exact leaves.scores.trans (departs.scores novel)
  | finishes _ _ _ => exact ⟨_, finish_utters player, rfl⟩
  | restarts finished _ _ =>
      have restarted : player.restart.2 = player.rewind.enterScene := by
        simp [Player.restart, coherent.started, finished]
      rw [← same]
      show Scores player player.restart.2
      rw [restarted]
      exact coherent.scores_restart

theorem Unstarted.scores_start (unstarted : player.Unstarted)
    (nonempty : player.novel.scenes.isEmpty = false) (score : Score) :
    ∃ events, Utters player ({ player with started := true } : Player κ).enterScene events ∧
      events.foldl Score.after score =
        (({ player with started := true } : Player κ).enterScene).score := by
  obtain ⟨_, _, stays, _⟩ := unstarted.start nonempty
  have waits : ({ player with started := true } : Player κ).Waits none none :=
    unstarted.waits.congr rfl rfl rfl
  refine ⟨_, waits.utters_opening rfl unstarted.position, ?_⟩
  rw [Score.foldl_after_entryEvents, score_of_entry (stays.place.trans ?_)
    (stays.finished.trans ?_), stays.novel]
  · exact congrArg Position.place unstarted.position
  · exact congrArg Position.finished unstarted.position

end Player

end VisualNovel.Playback
