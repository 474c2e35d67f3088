import VisualNovel.Proofs.Novel.Identifiers
import VisualNovel.Proofs.Playback.Coupling

/-!
# There is always a way on

A started session of a novel in which the checks find no error is never stuck: it
is over and can be played again, or waits for a transition, or shows a menu of
which every choice can be followed, or goes on when asked to. These exclude each
other.
-/

set_option autoImplicit false

namespace VisualNovel.Playback

open VisualNovel.Agenda VisualNovel.Clock VisualNovel.Sound VisualNovel.Novel

variable {β κ η : Type}

/-! ## Menus -/

theorem choices_compose {novel : Novel} {position : Position} {dialogue : Dialogue}
    (found : position.dialogue? novel = some dialogue) (muted : Bool) :
    (compose novel position muted).choices = dialogue.choices := by
  obtain ⟨scene, here, there⟩ := exists_scene_of_dialogueAt? found
  have resolved : (resolve novel position.scene position.dialogue).choices = dialogue.choices := by
    simp only [resolve, here, there]
  unfold compose
  dsimp only
  split
  · exact resolved
  · exact resolved

/-- A frame shows a menu outside of transitions, when the whole line before it shows. -/
theorem showChoices_compose (novel : Novel) (position : Position) (muted : Bool) :
    (compose novel position muted).showChoices =
      (!position.finished && !position.transitioning &&
        (position.dialogue? novel).any fun dialogue => dialogue.hasChoices &&
          decide ((dialogue.text.length : Int) ≤
            max 0 (min position.revealed dialogue.text.length))) := by
  unfold compose resolve
  cases position.finished with
  | true => rfl
  | false =>
      unfold Position.dialogue? dialogueAt?
      cases novel.sceneAt? position.scene with
      | none => simp
      | some scene =>
          cases line : scene.dialogueAt? position.dialogue with
          | none => simp [line]
          | some dialogue =>
              simp [line, Bool.and_comm]

namespace Player

variable {player : Player κ} {strike phase : Option (Timer (Alarm κ))}

/-- The menu is shown when no character of the line before it is waited for. -/
theorem Coherent.showChoices (coherent : player.Coherent strike phase) (muted : Bool) :
    (compose player.novel player.position muted).showChoices =
      (!player.position.finished && !player.position.transitioning &&
        (player.dialogue?.any Dialogue.hasChoices && !player.position.isTyping)) := by
  have within := coherent.lined.within
  have length := coherent.lined.length
  rw [showChoices_compose]
  cases finished : player.position.finished with
  | true => rfl
  | false =>
      congr 1
      unfold lineLength Player.dialogue? at length
      unfold Player.dialogue?
      cases line : player.position.dialogue? player.novel with
      | none => rfl
      | some dialogue =>
          rw [line] at length
          simp only [Option.map_some, Option.getD_some] at length
          simp only [Option.any_some, Position.isTyping, finished, length]
          have revealed : decide ((dialogue.text.length : Int) ≤
              max 0 (min player.position.revealed dialogue.text.length)) =
                !decide (player.position.revealed < dialogue.text.length) := by
            rw [← decide_not]
            exact decide_eq_decide.mpr (by omega)
          rw [revealed]
          rfl

/-- A line that is not being typed is followed by something unless it has a menu. -/
theorem Coherent.advance_flag (coherent : player.Coherent strike phase)
    (unfinished : player.position.finished = false)
    (still : player.position.transitioning = false) :
    player.advance.1 = (player.position.isTyping || !player.dialogue?.any Dialogue.hasChoices) := by
  unfold advance
  simp only [coherent.started, unfinished, still]
  cases typing : player.position.isTyping with
  | true =>
      obtain ⟨next, skipped⟩ := coherent.lined.exists_skip coherent.started typing
      simp [skipTyping, skipped]
  | false =>
      cases player.dialogue?.any Dialogue.hasChoices with
      | true => rfl
      | false =>
          simp only [Bool.not_true, Bool.or_self, Bool.false_eq_true, if_false, Bool.not_false,
            Bool.or_true]
          split
          · rfl
          · split <;> rfl

/-- A choice that is offered can be followed if its target and those before it exist. -/
theorem Coherent.choose_flag {dialogue : Dialogue} {choice : Choice}
    (coherent : player.Coherent strike phase)
    (unfinished : player.position.finished = false)
    (still : player.position.transitioning = false)
    (found : player.dialogue? = some dialogue) (offered : choice ∈ dialogue.choices)
    (led : ∀ choice ∈ dialogue.choices,
      ∃ target, player.novel.sceneIndex? choice.targetSceneId = some target) :
    (player.choose choice.id).1 = true := by
  obtain ⟨first, chosen⟩ : ∃ first, dialogue.choice? choice.id = some first := by
    apply Option.isSome_iff_exists.mp
    exact List.find?_isSome.mpr ⟨choice, offered, beq_self_eq_true _⟩
  obtain ⟨target, resolved⟩ := led first (List.mem_of_find?_eq_some chosen)
  unfold choose
  simp [coherent.started, unfinished, still, found, chosen, resolved]

end Player

namespace Session

def IsCrossing (session : Session β κ η) : Prop :=
  session.world.position.transitioning = true ∧
    ∃ timer ∈ session.timeline.pending, isTransitionTimer timer = true

private theorem isCrossing_of_coherent {session : Session β κ η} {seen : List Sight}
    {strike phase : Option (Timer (Alarm κ))}
    (coherent : (session.player seen).Coherent strike phase)
    (transitioning : session.world.position.transitioning = true) : IsCrossing session := by
  refine ⟨transitioning, ?_⟩
  obtain ⟨timer, rfl⟩ : ∃ timer, phase = some timer := by
    apply Option.isSome_iff_exists.mp
    rw [← coherent.crossing.transitioning]
    exact transitioning
  refine ⟨timer, ?_, (coherent.crossing.phased timer rfl).transition_label.1⟩
  exact coherent.lined.waits.pending.mem_iff.mpr (List.mem_append_right _ (.head _))

variable [DecidableEq κ] [Device β] {callbacks : Callbacks κ η} {session first last : Session β κ η}
  {turns : List (Turn β κ η)} {seen : List Sight}

def IsOver (callbacks : Callbacks κ η) (session : Session β κ η) : Prop :=
  session.world.position.finished = true ∧ Would callbacks session .restart true

def IsAtMenu (callbacks : Callbacks κ η) (session : Session β κ η) : Prop :=
  session.world.frame.showChoices = true ∧ Would callbacks session .advance false ∧
    ∀ choice ∈ session.world.frame.choices, Would callbacks session (.choose choice.id) true

/-- How a session stands with regard to what can follow. -/
inductive Situation where
  | finished
  | crossing
  | menu
  | going
  deriving DecidableEq

/-- A session is in a situation. It goes on if it is in no other. -/
def IsIn (callbacks : Callbacks κ η) (session : Session β κ η) : Situation → Prop
  | .finished => IsOver callbacks session
  | .crossing => IsCrossing session
  | .menu => IsAtMenu callbacks session
  | .going =>
      ¬ IsOver callbacks session ∧ ¬ IsCrossing session ∧ ¬ IsAtMenu callbacks session ∧
        Would callbacks session .advance true

private theorem Stands.isOver (stands : session.Stands seen) (quiet : callbacks.Quiet)
    (started : session.world.started = true) (finished : session.world.position.finished = true) :
    IsOver callbacks session := by
  refine ⟨finished, stands.would quiet .restart trivial ?_⟩
  have startedToo : (session.player seen).started = true := started
  have finishedToo : (session.player seen).position.finished = true := finished
  simp [Player.respond, Player.restart, startedToo, finishedToo]

/-- A line with a menu that is revealed is a menu that is shown. -/
private theorem Stands.isAtMenu {strike phase : Option (Timer (Alarm κ))}
    (stands : session.Stands seen) (quiet : callbacks.Quiet)
    (coherent : (session.player seen).Coherent strike phase)
    (unfinished : session.world.position.finished = false)
    (still : session.world.position.transitioning = false)
    (revealed : session.world.position.isTyping = false) {dialogue : Dialogue}
    (found : session.world.dialogue? = some dialogue) (menu : dialogue.hasChoices = true)
    (led : ∀ choice ∈ dialogue.choices,
      ∃ target, session.world.novel.sceneIndex? choice.targetSceneId = some target) :
    IsAtMenu callbacks session := by
  have line : (session.player seen).dialogue? = some dialogue := found
  refine ⟨?_, stands.would quiet .advance trivial ?_, ?_⟩
  · have shows : session.world.frame.showChoices = _ :=
      coherent.showChoices session.world.sound.muted
    have position : (session.player seen).position = session.world.position := rfl
    rw [shows, line, position, unfinished, still, revealed]
    simp [menu]
  · have flag := coherent.advance_flag unfinished still
    rw [line] at flag
    have position : (session.player seen).position = session.world.position := rfl
    simp only [Player.respond, flag, position, revealed, Option.any_some, menu]
    rfl
  · intro choice offered
    have choices : session.world.frame.choices = dialogue.choices := choices_compose found _
    rw [choices] at offered
    refine stands.would quiet (.choose choice.id) trivial ?_
    exact congrArg Answer.flag (coherent.choose_flag unfinished still line offered led)

/-- A session whose menus lead somewhere is in one of its situations. -/
private theorem Stands.situated {strike phase : Option (Timer (Alarm κ))}
    (stands : session.Stands seen) (quiet : callbacks.Quiet)
    (coherent : (session.player seen).Coherent strike phase)
    (led : ∀ dialogue, session.world.dialogue? = some dialogue → ∀ choice ∈ dialogue.choices,
      ∃ target, session.world.novel.sceneIndex? choice.targetSceneId = some target) :
    ∃! situation, IsIn callbacks session situation := by
  have shows : session.world.frame.showChoices =
      (!session.world.position.finished && !session.world.position.transitioning &&
        (session.world.dialogue?.any Dialogue.hasChoices && !session.world.position.isTyping)) :=
    coherent.showChoices session.world.sound.muted
  have closed : session.world.position.finished = true →
      session.world.position.transitioning = false :=
    fun finished => (coherent.session_coupled.finished finished).1
  by_cases finished : session.world.position.finished = true
  · have ended := stands.isOver quiet coherent.started finished
    refine ⟨.finished, ended, ?_⟩
    intro other is
    cases other with
    | finished => rfl
    | crossing => exact absurd (closed finished ▸ is.1) Bool.false_ne_true
    | menu => exact absurd is.1 (by simp [shows, finished])
    | going => exact absurd ended is.1
  have unfinished := Bool.not_eq_true _ ▸ finished
  by_cases transitioning : session.world.position.transitioning = true
  · have crossing := isCrossing_of_coherent coherent transitioning
    refine ⟨.crossing, crossing, ?_⟩
    intro other is
    cases other with
    | finished => exact absurd is.1 finished
    | crossing => rfl
    | menu => exact absurd is.1 (by simp [shows, transitioning])
    | going => exact absurd crossing is.2.1
  have still := Bool.not_eq_true _ ▸ transitioning
  by_cases shown : session.world.frame.showChoices = true
  · have offered := shown
    simp only [shows, Bool.and_eq_true, Bool.not_eq_true'] at offered
    obtain ⟨_, menu, revealed⟩ := offered
    obtain ⟨dialogue, found, choices⟩ := (Option.any_eq_true _ _).mp menu
    have atMenu := stands.isAtMenu quiet coherent unfinished still revealed found choices
      (led dialogue found)
    refine ⟨.menu, atMenu, ?_⟩
    intro other is
    cases other with
    | finished => exact absurd is.1 finished
    | crossing => exact absurd is.1 transitioning
    | menu => rfl
    | going => exact absurd atMenu is.2.2.1
  · have going : Would callbacks session .advance true := by
      have flag : (session.player seen).advance.1 =
          (session.world.position.isTyping || !session.world.dialogue?.any Dialogue.hasChoices) :=
        coherent.advance_flag unfinished still
      have hidden : (session.world.dialogue?.any Dialogue.hasChoices &&
          !session.world.position.isTyping) = false := by
        rw [shows, unfinished, still] at shown
        exact Bool.not_eq_true _ ▸ shown
      refine stands.would quiet .advance trivial (congrArg Answer.flag ?_)
      rw [flag]
      revert hidden
      cases session.world.position.isTyping <;>
        cases session.world.dialogue?.any Dialogue.hasChoices <;> simp
    refine ⟨.going, ⟨fun is => finished is.1, fun is => transitioning is.1,
      fun is => shown is.1, going⟩, ?_⟩
    intro other is
    cases other with
    | finished => exact absurd is.1 finished
    | crossing => exact absurd is.1 transitioning
    | menu => exact absurd is.1 shown
    | going => rfl

/-- Between the requests of a history, a started session of a novel without errors is always in
exactly one situation. -/
theorem History.existsUnique_situation {document : Json.Value} {novel : Novel}
    (history : History callbacks first turns last) (quiet : callbacks.Quiet) (fresh : first.Fresh)
    (read : (Novel.ofValue document).1 = .ok novel)
    (sane : ∀ diagnostic ∈ problems novel, diagnostic.severity ≠ .error)
    (plays : first.world.novel = novel) (started : last.world.started = true) :
    ∃! situation, IsIn callbacks last situation := by
  have stands := history.stands quiet fresh.stands
  have same : last.world.novel = novel := (history.constant quiet fresh.stands).1.trans plays
  obtain ⟨_, _, coherent, _⟩ := stands.coherent started
  refine stands.situated quiet coherent ?_
  intro dialogue found choice offered
  unfold Stage.dialogue? Position.dialogue? at found
  rw [same] at found ⊢
  exact exists_target (id_ne_empty_of_ofValue read) sane found offered

theorem existsUnique_situation_at_menu : ∃ turns last,
    History Sample.nobody Sample.opened turns last ∧ last.world.frame.showChoices = true ∧
      ∃! situation, IsIn Sample.nobody last situation := by
  obtain ⟨turns, last, ran, started, shown⟩ : ∃ turns last,
      run? Sample.nobody 100 Sample.opened [.start, .skipTyping, .advance, .update 500] =
          some (turns, last) ∧
        last.world.started = true ∧ last.world.frame.showChoices = true :=
    ⟨_, _, rfl, rfl, rfl⟩
  have history := history_of_run? (by simp [Request.Plays]) ran
  have sane : ∀ diagnostic ∈ problems Sample.novel, diagnostic.severity ≠ .error := by
    simp [Sample.problems_novel]
  exact ⟨turns, last, history, shown, history.existsUnique_situation Sample.nobody_quiet
    Sample.opened_fresh Sample.novel_of_document sane rfl started⟩

end Session

end VisualNovel.Playback
