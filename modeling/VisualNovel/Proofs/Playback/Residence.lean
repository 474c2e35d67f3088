import VisualNovel.Proofs.Playback.Conducting
import VisualNovel.Proofs.Playback.Location
import VisualNovel.Proofs.Playback.Unfolding

/-!
# Sessions in their novel

Whatever the callbacks of a session do, and whenever they do it, the session is in its
novel: its position at every moment, and the scenes that what is left to be done and
the timers lead to.
-/

set_option autoImplicit false

namespace VisualNovel.Playback.Session

open VisualNovel.Agenda VisualNovel.Clock VisualNovel.Novel VisualNovel.Sound

variable {β κ η : Type} {novel : Novel} {session : Session β κ η} {move : Move β κ η}

theorem abides_whenOpen (located : Located novel session) (abides : Abides novel (jobs move)) :
    Abides novel (jobs (whenOpen session move)) := by
  unfold whenOpen
  split
  · exact abides_refuse located
  · exact abides

private theorem bound_ring (callbacks : Callbacks κ η) {timer : Timer (Alarm κ)}
    (known : timer.payload.isAstray novel = false) :
    ∀ task ∈ ring callbacks timer, task.isBound novel = true := by
  unfold ring
  cases payload : timer.payload with
  | commit generation target timing =>
      rw [payload] at known
      simpa [Alarm.isAstray, Task.isBound] using known
  | strike | clear | ring => simp [Task.isBound]

variable [Device β] [DecidableEq κ]

theorem Located.closeSound (located : Located novel session) :
    Located novel (closeSound session) := by
  obtain ⟨bus, sound, warnings, world⟩ := world_closeSound session
  refine located.of_same ?_ ?_ (closeSound_same session).1
  · rw [world]
  · rw [world]

private theorem abides_close (located : Located novel session) : Abides novel (jobs (close session))
    := by
  unfold close
  split
  · exact abides_jobs located (by simp [Task.isBound])
  · have closed : Located novel (withStage session fun stage => { stage with closed := true }) :=
      located.of_same rfl rfl rfl
    have halted : Located novel
        { (Session.stopPlayer (withStage session fun stage =>
            { stage with closed := true })).2 with
          timeline := (Session.stopPlayer (withStage session fun stage =>
            { stage with closed := true })).2.timeline.close } :=
      ⟨closed.stopPlayer.plays, closed.stopPlayer.within, Timeline.keeps_of_idle rfl⟩
    exact abides_jobs halted.closeSound (by simp [Task.isBound])

/-- A request leads to no scene but those of the novel. -/
private theorem abides_begin (located : Located novel session) (made : Request κ) :
    Abides novel (begin session made) := by
  cases made with
  | start => exact abides_whenOpen located (abides_start located)
  | advance => exact abides_whenOpen located (abides_advance located)
  | choose choiceId => exact abides_whenOpen located (abides_choose located choiceId)
  | restart => exact abides_whenOpen located (abides_restart located)
  | startTyping => exact abides_startTyping located
  | skipTyping => exact abides_skipTyping located
  | close => exact abides_close located
  | toggleMute =>
      simp only [begin]
      split
      · exact ⟨located.of_same rfl rfl rfl, by simp⟩
      · exact ⟨located.of_same rfl rfl rfl, by simp⟩
  | update time =>
      simp only [begin]
      split
      · exact ⟨located.of_same rfl rfl rfl, by simp⟩
      · exact ⟨located, by simp [Job.all, Task.isBound]⟩
  | stop => exact ⟨located.stopPlayer.of_same rfl rfl rfl, by simp [begin]⟩
  | flush limit => exact ⟨located, by simp [begin, Job.all, Task.isBound]⟩
  | cancelTimers =>
      exact ⟨⟨located.plays, located.within, Timeline.keeps_of_idle rfl⟩, by simp [begin]⟩
  | later delay label cue =>
      exact ⟨⟨located.plays, located.within, located.alarms.later_other delay label rfl⟩,
        by simp [begin]⟩
  | setMuted | frame | statistics | isClosed =>
      exact ⟨located.of_same rfl rfl rfl, by simp [begin]⟩
  | gesture made =>
      simp only [begin]
      split
      · exact ⟨located.of_same rfl rfl rfl, by simp⟩
      · exact ⟨located, works_meaning (fun _ => rfl) (fun _ => rfl) session made⟩

/-- What a player does at once or has waiting: only a transition changes the scene, and it goes
where it was bound for. -/
theorem abides_move (located : Located novel session) (callbacks : Callbacks κ η)
    {task : Task κ η} (moves : task.isMove = true) (bound : task.isBound novel = true) :
    Abides novel ((clockwork callbacks).step (.work task) session) := by
  cases task with
  | reply | replyCount =>
      exact ⟨located.of_same rfl rfl rfl, by simp [Clockwork.step, clockwork, act]⟩
  | enterScene =>
      obtain ⟨scene, here, _⟩ := located.within
      have entered : Located novel (enterScene session).1 := located.enter here rfl rfl rfl
      exact abides_jobs entered (by simp [enterScene, Task.isBound])
  | enterDialogue =>
      show Abides novel (jobs (enterDialogue session))
      unfold enterDialogue
      cases session.world.dialogue? with
      | none =>
          have hidden : Located novel (withPosition session fun position =>
              { position with revealed := 0, textLength := 0 }) := located.of_same rfl rfl rfl
          exact abides_jobs hidden.stopTyping (by simp)
      | some dialogue => exact abides_jobs (located.of_same rfl rfl rfl) (by simp [Task.isBound])
  | typeLine =>
      show Abides novel (jobs ((typeLine? session).getD (session, [])))
      cases types : typeLine? session with
      | none => exact located.done
      | some move => exact (types_of_typeLine? types).abides located
  | beginTransition target =>
      have shown : Located novel (withPosition (Session.stopTyping session) fun position =>
          { position with revealed := position.textLength }) :=
        located.stopTyping.of_same rfl rfl rfl
      have begun : Located novel (beginTransition session target).1 :=
        shown.cancelTransition.of_same rfl rfl rfl
      exact abides_jobs begun (by simpa [beginTransition, Task.isBound] using bound)
  | awaitCommit generation target timing =>
      show Abides novel (jobs (awaitCommit session generation target timing))
      unfold awaitCommit
      split
      · exact abides_jobs located (by simpa [Task.isBound] using bound)
      · have known : (Alarm.commit generation target timing : Alarm κ).isAstray novel = false := by
          simpa [Alarm.isAstray, Task.isBound] using bound
        exact abides_jobs (located.setPhase _ _ known) (by simp)
  | commit generation target timing =>
      show Abides novel (jobs (commit session generation target timing))
      unfold commit
      split
      · exact located.done
      · obtain ⟨scene, there⟩ := Option.isSome_iff_exists.mp bound
        exact abides_jobs (located.enter there rfl rfl rfl) (by simp [Task.isBound])
  | awaitClear generation timing =>
      show Abides novel (jobs (awaitClear session generation timing))
      unfold awaitClear
      split
      · exact located.done
      split
      · exact abides_jobs located (by simp [Task.isBound])
      · exact abides_jobs (located.setPhase _ _ rfl) (by simp)
  | clear generation =>
      show Abides novel (jobs (clear session generation))
      unfold clear
      split
      · exact located.done
      · exact abides_jobs (located.of_same rfl rfl rfl) (by simp [Task.isBound])
  | strike generation =>
      exact abides_jobs ((located.withTyped (Typewriter.minds_strike _ _ _)).heed _)
        (bound_heed _ (tidy_strike _ _ _))
  | request | emit | deliver | script | resume | forgetListeners => contradiction

/-- The clock lets nothing out but what the timers are for. -/
theorem abides_clock (located : Located novel session) (callbacks : Callbacks κ η)
    {job : Job (Task κ η)} (clock : ∀ task, job ≠ .work task) :
    Abides novel ((clockwork callbacks).step job session) := by
  rcases Clockwork.step_clock_cases clock with
    ⟨now, ran, same, others⟩ | ⟨time, ran, timer, timeline, taken, fires⟩
  · refine ⟨?_, fun made member => ?_⟩
    · rw [same]
      exact ⟨located.plays, located.within, located.alarms⟩
    · exact Job.all_of_clock (others made member)
  · rw [fires]
    refine ⟨⟨located.plays, located.within, located.alarms.takeDue taken⟩, fun made member => ?_⟩
    obtain ⟨rest, waiting, _⟩ := Timeline.takeDue?_eq_some.mp taken
    have known : timer.payload.isAstray novel = false := by
      refine Bool.eq_false_of_not_eq_true fun astray => ?_
      cases located.alarms timer (waiting ▸ List.mem_cons_self) astray
    rcases List.mem_append.mp member with work | waits
    · obtain ⟨task, listed, rfl⟩ := List.mem_map.mp work
      exact bound_ring callbacks known task listed
    · rw [List.mem_singleton.mp waits]
      rfl

/-- No job leads out of the novel. -/
private theorem abides_step (located : Located novel session) (callbacks : Callbacks κ η)
    {job : Job (Task κ η)} (bound : job.all (Task.isBound novel) = true) :
    Abides novel ((clockwork callbacks).step job session) := by
  cases job with
  | update | drain | drained | flush | flushed =>
      exact abides_clock located callbacks (by simp)
  | work task =>
      cases task using Task.byKind with
      | move task moves => exact abides_move located callbacks moves bound
      | request made => exact abides_begin located made
      | emit event =>
          refine abides_jobs (located.of_same rfl rfl rfl) fun task listed => ?_
          obtain ⟨listener, _, rfl⟩ := List.mem_map.mp listed
          rfl
      | hear event =>
          have heard : Located novel (withStage session fun stage => stage.hear event) :=
            located.of_same (by cases event <;> rfl) (by cases event <;> rfl) rfl
          exact ⟨heard, by simp [Clockwork.step, clockwork, act]⟩
      | cue event cue =>
          exact ⟨located, by simp [Clockwork.step, clockwork, act, Job.all, Task.isBound]⟩
      | script caller rest =>
          obtain ⟨_, _, same⟩ := world_proceed session caller rest
          have proceeded : Located novel (proceed session caller rest).1 := by
            rw [same]
            exact located.of_same rfl rfl rfl
          exact ⟨proceeded, works_proceed (fun _ => rfl) (fun _ _ => rfl) session caller rest⟩
      | resume caller next =>
          exact ⟨located, by simp [Clockwork.step, clockwork, act, Job.all, Task.isBound]⟩
      | forgetListeners =>
          exact ⟨located.of_same rfl rfl rfl, by simp [Clockwork.step, clockwork, act]⟩

/-- Every moment that comes of one in the novel is in it. -/
theorem Unfolds.abides {callbacks : Callbacks κ η} {admits : Admission β κ η}
    {left tasks : List (Job (Task κ η))} {first : Session β κ η}
    (unfolds : Unfolds callbacks admits left first tasks session)
    (abides : Abides novel (first, left)) : Abides novel (session, tasks) := by
  induction unfolds with
  | refl => exact abides
  | works _ _ hypothesis =>
      have stepped := abides_step hypothesis.located callbacks
        (hypothesis.bound _ List.mem_cons_self)
      refine ⟨stepped.located, fun job member => ?_⟩
      rcases List.mem_append.mp member with made | waiting
      · exact stepped.bound job made
      · exact hypothesis.bound job (List.mem_cons_of_mem _ waiting)
  | asks made _ hypothesis => exact ⟨hypothesis.located, by simp [Job.all, Task.isBound]⟩
  | listens name cue _ hypothesis =>
      exact ⟨hypothesis.located.of_same rfl rfl rfl, hypothesis.bound⟩

omit [Device β] in
private theorem located_new (filled : novel.scenes ≠ []) (preferences : Preferences) (device : β)
    (now : Int) (notes : η) :
    Located novel (new novel preferences device now notes : Session β κ η) where
  plays := rfl
  within := by
    obtain ⟨scene, here⟩ : ∃ scene, novel.sceneAt? 0 = some scene :=
      exists_sceneAt?.mpr ⟨le_rfl, Int.natCast_pos.mpr (List.length_pos_iff.mpr filled)⟩
    exact ⟨scene, here, .inl rfl⟩
  alarms := Timeline.keeps_of_idle rfl

/-- Whatever its callbacks ask for on any event, at every moment the position of a session is in
the novel, and what it shows is in the novel too. -/
theorem Unfolds.stays_in_novel {callbacks : Callbacks κ η} {preferences : Preferences}
    {device : β} {now : Int} {notes : η} {tasks : List (Job (Task κ η))}
    (unfolds : Unfolds callbacks freely [] (new novel preferences device now notes) tasks session)
    (filled : novel.scenes ≠ []) :
    (0 ≤ session.world.position.scene ∧
      session.world.position.scene < novel.scenes.length) ∧
    (session.world.position.dialogue = 0 ∨
      ∃ scene, novel.sceneAt? session.world.position.scene = some scene ∧
        0 ≤ session.world.position.dialogue ∧
        session.world.position.dialogue < scene.dialogues.length) ∧
    session.world.novel = novel ∧
    session.world.frame.Cites novel := by
  have start : Abides novel ((new novel preferences device now notes : Session β κ η), []) :=
    (located_new filled preferences device now notes).done
  obtain ⟨plays, within, -⟩ := (unfolds.abides start).located
  have shown : session.world.frame.Cites novel := by
    rw [Stage.frame, plays]
    exact within.cites _
  obtain ⟨scene, here, line⟩ := within
  refine ⟨exists_sceneAt?.mp ⟨scene, here⟩, ?_, plays, shown⟩
  exact line.imp_right fun found => ⟨scene, here, exists_itemAt?.mp found⟩

/-- A callback goes on as soon as a transition has put its scene in place, while the scene is
still to be entered. -/
theorem stays_in_novel_amid_commit : ∃ rest session,
    Unfolds (Sample.asking .advance) freely []
        (new Sample.novel {} Rehearsal.willing 0 () : Session Rehearsal String Unit)
        (.work (.request .advance) :: rest) session ∧
      .work .enterScene ∈ rest ∧ session.world.position.place = (1, 0) ∧
      session.world.frame.Cites Sample.novel := by
  have listening : Unfolds (Sample.asking .advance) freely []
      (new Sample.novel {} Rehearsal.willing 0 () : Session Rehearsal String Unit) []
      (listen (listen (new Sample.novel {} Rehearsal.willing 0 ()) "typing.complete" "next")
        "transition.commit" "next") :=
    (Unfolds.refl.listens "typing.complete" "next").listens "transition.commit" "next"
  obtain ⟨menu, shown, rest, session, reached, entered, place⟩ :
      ∃ menu,
        takeTurns? (Sample.asking .advance)
            [(.start, 9), (.skipTyping, 13), (.skipTyping, 9), (.choose "yes", 6)]
            (listen (listen (new Sample.novel {} Rehearsal.willing 0 ()) "typing.complete" "next")
              "transition.commit" "next") = some menu ∧
        ∃ rest session,
          takeUp? (Sample.asking .advance) freely 7 [.work (.request (.update 300))] menu =
              some (.work (.request .advance) :: rest, session) ∧
            .work .enterScene ∈ rest ∧ session.world.position.place = (1, 0) :=
    ⟨_, rfl, _, _, rfl, by simp, rfl⟩
  have unfolds := ((listening.of_takeTurns? shown).asks (.update 300)).of_takeUp? reached
  obtain ⟨-, -, -, cites⟩ := unfolds.stays_in_novel (List.cons_ne_nil _ _)
  exact ⟨rest, session, unfolds, entered, place, cites⟩

end VisualNovel.Playback.Session
