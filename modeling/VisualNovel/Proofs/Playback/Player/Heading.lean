import VisualNovel.Proofs.Novel.Places
import VisualNovel.Proofs.Playback.Player.Prompt

/-!
# Players on their way

A player is on its way to a place of its novel, or there. The clock brings it nearer
and nowhere else. Once nothing is waited for it is there, with its line revealed, and
goes on to the next line, sets out for the next scene, or has come to the end.
-/

set_option autoImplicit false

namespace VisualNovel.Playback.Player

open VisualNovel.Clock VisualNovel.Novel

variable {κ : Type} {novel : Novel} {place : Int × Int} {player next : Player κ}
  {strike phase begun following : Option (Timer (Alarm κ))}

/-- A player waiting for a character and a phase is on its way to a place of a novel. -/
structure Heading (novel : Novel) (place : Int × Int) (player : Player κ)
    (strike phase : Option (Timer (Alarm κ))) : Prop where
  novel : player.novel = novel
  coherent : player.Coherent strike phase
  rested : player.Rested phase
  unfinished : player.position.finished = false
  goal : player.goal phase = place

/-- What the clock does brings a player nearer to the end of its transition. -/
theorem Tick.nears (tick : Tick (player, phase) (next, following))
    (unfinished : player.position.finished = false) : player.Nears phase next following := by
  cases tick with
  | settle _ => exact ⟨rfl, rfl, rfl, [], .silent rfl, rfl⟩
  | types _ types =>
      have stays := types.stays
      refine ⟨stays.novel, stays.finished, ?_, [], types.utters, ?_⟩
      · simp only [Player.goal, stays.place]
        rfl
      · simp only [announced, stays.novel, List.nil_append]
  | arrives _ _ payload arrives =>
      exact arrives.nears rfl rfl unfinished (by simp [awaited?, payload])
  | @ends _ timeline timer _ _ payload =>
      have awaits : awaited? (some timer) = none := by simp [awaited?, payload]
      rw [clear_eq]
      refine ⟨rfl, rfl, ?_, [], utters_emit _ _, ?_⟩
      · simp only [Player.goal, awaits]
        rfl
      · simp only [announced, awaits]
        rfl

theorem Ticks.nears (ticks : player.Ticks phase next following)
    (unfinished : player.position.finished = false) : player.Nears phase next following :=
  ticks.invariant (fun state reached => player.Nears phase state reached) (.refl player phase)
    fun held tick => held.trans (tick.nears (held.finished.trans unfinished))

theorem Coherent.still (coherent : player.Coherent strike phase)
    (idle : player.timeline.nextDue? = none) : strike = none ∧ phase = none := by
  have nothing : player.timeline.pending = [] := by
    simpa [Timeline.nextDue?] using idle
  have pending := coherent.lined.waits.pending
  rw [nothing] at pending
  have none := List.append_eq_nil_iff.mp pending.symm.eq_nil
  exact ⟨Option.toList_eq_nil_iff.mp none.1, Option.toList_eq_nil_iff.mp none.2⟩

namespace Heading

theorem ticks (heading : Heading novel place player strike phase)
    (ticks : player.Ticks phase next following) (after : next.Coherent begun following)
    (rested : next.Rested following) :
    Heading novel place next begun following ∧ player.Nears phase next following := by
  have nears := ticks.nears heading.unfinished
  exact ⟨⟨nears.novel.trans heading.novel, after, rested, nears.finished.trans heading.unfinished,
    nears.goal.trans heading.goal⟩, nears⟩

/-! ## Where nothing is waited for -/

theorem still (heading : Heading novel place player strike none) :
    player.position.transitioning = false :=
  heading.coherent.crossing.transitioning

theorem place_eq (heading : Heading novel place player strike none) : player.place = place :=
  heading.goal

theorem revealed (heading : Heading novel place player none phase) :
    player.position.isTyping = false :=
  heading.coherent.isTyping_eq

private theorem menuAt_eq (heading : Heading novel place player strike none) :
    novel.menuAt place = (player.dialogue?.map Dialogue.choices).getD [] := by
  rw [← heading.place_eq, ← heading.novel]
  rfl

theorem ended (heading : Heading novel place player none none)
    (noMenu : (novel.menuAt place).isEmpty) : player.Ended := by
  refine ⟨heading.unfinished, heading.still, heading.revealed, ?_⟩
  rw [heading.menuAt_eq] at noMenu
  cases line : player.dialogue? with
  | none => rfl
  | some dialogue =>
      rw [line] at noMenu
      simpa [Dialogue.hasChoices] using noMenu

theorem hasNextLine_eq (heading : Heading novel place player strike none) :
    player.hasNextLine = (novel.dialogueAt? place.1 (place.2 + 1)).isSome := by
  obtain ⟨scene, found, within⟩ := heading.coherent.placed
  have here : player.novel.sceneAt? player.place.1 = some scene := found
  rw [← heading.place_eq, ← heading.novel, hasNextLine, dialogueAt?, found, here]
  have follows : (∃ dialogue, itemAt? scene.dialogues (player.position.dialogue + 1) =
      some dialogue) ↔ _ := exists_itemAt?
  rw [Bool.eq_iff_iff, Option.isSome_iff_exists]
  simp only [Option.any_some, decide_eq_true_eq]
  exact ⟨fun more => follows.mpr ⟨by omega, more⟩, fun found => (follows.mp found).2⟩

/-- A player that leaves for another scene is on its way to its beginning, and says so by the time
it gets there. -/
theorem leave (heading : Heading novel place player none none) {made : Request κ} {target : Int}
    {ready : Player κ} (leaves : player.Leaves made target ready) :
    ∃ begun following events,
      Heading novel (target, 0) (ready.beginTransition target) begun following ∧
      Utters player (ready.beginTransition target) events ∧
      events ++ (ready.beginTransition target).announced following =
        entryEvents novel target := by
  obtain ⟨begun, following, after, departs⟩ := leaves.departs heading.coherent heading.unfinished
  have known : ready.novel = novel := leaves.constant.1.trans heading.novel
  have unfinished : (ready.beginTransition target).position.finished = false :=
    departs.finished ((congrArg Position.finished leaves.same.1).trans heading.unfinished)
  have said := leaves.utters
  generalize ready.beginTransition target = next at after departs unfinished
  have rested := departs.rested
  -- with no time to wait the player is in the scene at once, else a timer is set for that
  cases departs with
  | @wait timer _ _ payload same =>
      have awaits : awaited? (some timer) = some target := by simp [awaited?, payload]
      have same_novel : next.novel = novel := by
        rw [same]
        exact known
      have silent : Utters (ready.embark target) next [] := by
        rw [same]
        exact .silent rfl
      refine ⟨begun, _, _, ⟨same_novel, after, rested, unfinished, ?_⟩, said.trans silent, ?_⟩
      · simp only [Player.goal, awaits]
      · simp only [announced, awaits, same_novel]
        rfl
  | arrive _ arrives =>
      have same_novel : next.novel = novel := arrives.novel.trans known
      obtain ⟨_, done⟩ := arrives.lands
      refine ⟨begun, _, _, ⟨same_novel, after, rested, unfinished, ?_⟩,
        said.trans arrives.utters, ?_⟩
      · simp only [Player.goal, done, arrives.place]
      · simp only [announced, done, List.append_nil, List.nil_append]
        exact congrArg (entryEvents · target) known

theorem next_scene (heading : Heading novel place player none none)
    (noMenu : (novel.menuAt place).isEmpty)
    (last : novel.dialogueAt? place.1 (place.2 + 1) = none)
    (further : (novel.sceneAt? (place.1 + 1)).isSome) :
    player.Leaves .advance (place.1 + 1) player := by
  obtain ⟨scene, follows⟩ := Option.isSome_iff_exists.mp further
  have within := exists_sceneAt?.mp ⟨scene, follows⟩
  have here : player.position.scene = place.1 := congrArg Prod.fst heading.place_eq
  rw [← here] at within ⊢
  refine .advance (heading.ended noMenu) ?_ (heading.novel ▸ within.2)
  rw [heading.hasNextLine_eq, last]
  rfl

theorem next_line (heading : Heading novel place player none none)
    (noMenu : (novel.menuAt place).isEmpty) {dialogue : Dialogue}
    (follows : novel.dialogueAt? place.1 (place.2 + 1) = some dialogue) :
    ∃ begun, Heading novel (place.1, place.2 + 1) player.advance.2 begun none ∧
      player.advance.1 = true ∧
      Utters player player.advance.2 [.dialogueEnter place.1 (place.2 + 1) dialogue] := by
  obtain rfl := heading.place_eq
  have ended := heading.ended noMenu
  have more : player.hasNextLine = true := by
    rw [heading.hasNextLine_eq, follows]
    rfl
  have said := heading.coherent.utters_line heading.unfinished
  obtain ⟨scene, found, _⟩ := heading.coherent.placed
  have longer : player.position.dialogue + 1 < scene.dialogues.length := by
    simpa [hasNextLine, found] using more
  obtain ⟨begun, after, stays, _⟩ := heading.coherent.nextLine heading.unfinished found longer
  have line : player.nextLine.lineEvents =
      [.dialogueEnter player.place.1 (player.place.2 + 1) dialogue] := by
    have here : player.nextLine.dialogue? = some dialogue := by
      rw [← follows, ← heading.novel]
      rfl
    unfold lineEvents
    rw [here]
    rfl
  rw [line] at said
  rw [ended.advance_line heading.coherent.started more]
  exact ⟨begun, ⟨stays.novel.trans heading.novel, after, fun _ impossible => by contradiction,
    stays.finished.trans heading.unfinished, stays.place⟩, rfl, said⟩

theorem past_end (heading : Heading novel place player none none)
    (noMenu : (novel.menuAt place).isEmpty)
    (last : novel.dialogueAt? place.1 (place.2 + 1) = none)
    (further : novel.sceneAt? (place.1 + 1) = none) :
    player.advance = (true, player.finish) ∧ player.finish.Coherent none none := by
  have ended := heading.ended noMenu
  have noLine : player.hasNextLine = false := by
    rw [heading.hasNextLine_eq, last]
    rfl
  have noScene : ¬ player.position.scene + 1 < player.novel.scenes.length := by
    obtain ⟨scene, found, _⟩ := heading.coherent.placed
    have inside := exists_sceneAt?.mp ⟨scene, found⟩
    intro within
    obtain ⟨next, follows⟩ := exists_sceneAt?.mpr (⟨by omega, within⟩ :
      0 ≤ player.position.scene + 1 ∧ _)
    rw [← heading.place_eq, ← heading.novel] at further
    exact absurd (further.symm.trans follows) (by simp)
  exact ⟨ended.advance_finish heading.coherent.started noLine noScene,
    heading.coherent.finish ended.noMenu ended.revealed⟩

end Heading

theorem Unstarted.sets_out (unstarted : player.Unstarted) (nonempty : player.novel.scenes ≠ []) :
    ∃ begun, Heading player.novel (0, 0) player.start.2 begun none ∧ player.start.1 = true ∧
      Utters player player.start.2 (entryEvents player.novel 0) := by
  have filled : player.novel.scenes.isEmpty = false := by simpa using nonempty
  have starts : player.start =
      (true, ({ player with started := true } : Player κ).enterScene) := by
    simp [Player.start, unstarted.started, filled]
  have waits : ({ player with started := true } : Player κ).Waits none none :=
    unstarted.waits.congr rfl rfl rfl
  have utters := waits.utters_opening rfl unstarted.position
  obtain ⟨begun, after, stays, _⟩ := unstarted.start filled
  rw [starts]
  refine ⟨begun, ⟨stays.novel, after, fun _ impossible => by contradiction, ?_, ?_⟩, rfl, utters⟩
  · rw [stays.finished, unstarted.position]
  · exact stays.place.trans (congrArg Position.place unstarted.position)

end VisualNovel.Playback.Player

/-!
## Players on a walk

A player that types at once follows a walk through its novel. Where the walk goes on
to the next line, so does the player at once; where it goes on to another scene, the
player sets out for it, and has said so by the time it gets there.
-/

namespace VisualNovel.Playback.Player

open VisualNovel.Clock VisualNovel.Novel

variable {κ : Type} {novel : Novel} {place : Int × Int} {player next : Player κ}
  {phase : Option (Timer (Alarm κ))}

structure Bound (novel : Novel) (place : Int × Int) (player : Player κ)
    (phase : Option (Timer (Alarm κ))) : Prop where
  novel : player.novel = novel
  coherent : player.Coherent none phase
  prompt : player.Prompt
  rested : player.Rested phase
  unfinished : player.position.finished = false
  goal : player.goal phase = place

namespace Bound

theorem heading (bound : Bound novel place player phase) :
    Heading novel place player none phase :=
  ⟨bound.novel, bound.coherent, bound.rested, bound.unfinished, bound.goal⟩

theorem of_heading {strike : Option (Timer (Alarm κ))}
    (heading : Heading novel place player strike phase) (prompt : player.Prompt) :
    Bound novel place player phase := by
  obtain rfl := heading.coherent.strike_eq_none prompt
  exact ⟨heading.novel, heading.coherent, prompt, heading.rested, heading.unfinished,
    heading.goal⟩

theorem still (bound : Bound novel place player none) :
    player.position.transitioning = false :=
  bound.heading.still

theorem revealed_eq (bound : Bound novel place player none) {dialogue : Dialogue}
    (line : player.dialogue? = some dialogue) :
    player.position.revealed = dialogue.text.length := by
  rw [bound.coherent.lined.reveals.idle rfl, bound.coherent.lined.length]
  simp [lineLength, line]

/-- A player that leaves for another scene is bound for its beginning, and says so by the time it
gets there. -/
theorem leave (bound : Bound novel place player none) {made : Request κ} {target : Int}
    {ready : Player κ} (leaves : player.Leaves made target ready) :
    ∃ following events, Bound novel (target, 0) (ready.beginTransition target) following ∧
      Utters player (ready.beginTransition target) events ∧
      events ++ (ready.beginTransition target).announced following =
        entryEvents novel target := by
  have prompt : ready.Prompt := by
    cases leaves <;> exact bound.prompt
  obtain ⟨_, following, events, heading, said⟩ := bound.heading.leave leaves
  exact ⟨following, events, of_heading heading (prompt.beginTransition target), said⟩

theorem next_line (bound : Bound novel place player none)
    (noMenu : (novel.menuAt place).isEmpty) {dialogue : Dialogue}
    (follows : novel.dialogueAt? place.1 (place.2 + 1) = some dialogue) :
    Bound novel (place.1, place.2 + 1) player.advance.2 none ∧
      Utters player player.advance.2 [.dialogueEnter place.1 (place.2 + 1) dialogue] := by
  obtain ⟨_, heading, _, said⟩ := bound.heading.next_line noMenu follows
  exact ⟨of_heading heading (bound.prompt.advance bound.heading.revealed), said⟩

theorem past_end (bound : Bound novel place player none)
    (noMenu : (novel.menuAt place).isEmpty)
    (last : novel.dialogueAt? place.1 (place.2 + 1) = none)
    (further : novel.sceneAt? (place.1 + 1) = none) :
    player.advance.2 = player.finish ∧ player.finish.Coherent none none ∧
      player.finish.Prompt := by
  obtain ⟨finishes, coherent⟩ := bound.heading.past_end noMenu last further
  exact ⟨congrArg Prod.snd finishes, coherent, bound.prompt.cancel player.timeline⟩

/-- Choosing the first entry that leads anywhere leaves for its scene. -/
theorem follow (bound : Bound novel place player none) (distinct : novel.DistinctChoices)
    {choice : Choice}
    (first : (novel.menuAt place).find?
      (fun choice => (novel.sceneIndex? choice.targetSceneId).isSome) = some choice) :
    ∃ target : Nat, novel.sceneIndex? choice.targetSceneId = some target ∧
      player.Leaves (.choose choice.id) target (player.emit (.choiceSelect choice target)) := by
  have leads := List.find?_some first
  obtain ⟨target, led⟩ := Option.isSome_iff_exists.mp leads
  have offered := List.mem_of_find?_eq_some first
  refine ⟨target, led, ?_⟩
  rw [bound.heading.menuAt_eq] at offered
  cases line : player.dialogue? with
  | none =>
      rw [line] at offered
      contradiction
  | some dialogue =>
      rw [line] at offered
      have here : novel.dialogueAt? player.place.1 player.place.2 = some dialogue := by
        rw [← bound.novel]
        exact line
      exact .choose line (distinct.choice?_eq here offered) (bound.novel ▸ led)

end Bound

theorem Unstarted.set_out (unstarted : player.Unstarted) (nonempty : player.novel.scenes ≠ [])
    (prompt : player.Prompt) :
    Bound player.novel (0, 0) player.start.2 none ∧
      Utters player player.start.2 (entryEvents player.novel 0) := by
  have ready : ({ player with started := true } : Player κ).Prompt := prompt
  have filled : player.novel.scenes.isEmpty = false := by simpa using nonempty
  have starts : player.start.2 = ({ player with started := true } : Player κ).enterScene := by
    simp [Player.start, unstarted.started, filled]
  obtain ⟨_, heading, _, said⟩ := unstarted.sets_out nonempty
  refine ⟨.of_heading heading ?_, said⟩
  rw [starts]
  exact ready.enterScene

end VisualNovel.Playback.Player
