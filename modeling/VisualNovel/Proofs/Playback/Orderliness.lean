import VisualNovel.Proofs.Playback.Sealing
import VisualNovel.Proofs.Playback.Sparing

/-!
# Sessions whose timers are in order

Whatever the callbacks of a session do, and whenever they do it, the timers of its
timeline are in the order in which they are due, and none of them is for a line that is
still to come.
-/

set_option autoImplicit false

namespace VisualNovel.Playback.Session

open VisualNovel.Agenda VisualNovel.Clock VisualNovel.Event VisualNovel.Novel VisualNovel.Sound

variable {β κ η : Type}

/-- The timers of a session are in order as long as its timeline is open, and none is for a line
still to come. -/
structure Regular (session : Session β κ η) : Prop where
  dated : session.Dated
  orderly : session.timeline.closed = false → session.timeline.Orderly

variable {session next : Session β κ η}

theorem Treats.dated {decision : Session β κ η × List (Job (Task κ η))}
    (treats : session.Treats decision) (dated : session.Dated) : decision.1.Dated := by
  cases treats with
  | spares spares =>
      intro timer member generation struck
      have listed : timer ∈ decision.1.strikes generation :=
        List.mem_filter.mpr ⟨member, by simp [struck, Alarm.reveals]⟩
      rw [spares.strikes] at listed
      rw [spares.typewriter]
      exact dated timer (List.mem_filter.mp listed).1 generation struck
  | ends _ carries => exact carries dated

theorem Regular.tends (regular : session.Regular) (tends : session.timeline.Tends next.timeline)
    (dated : next.Dated) : next.Regular where
  dated := dated
  orderly isOpen := (regular.orderly (tends.shut ▸ isOpen)).tends tends

theorem regular_of_idle (idle : next.timeline.pending = []) : next.Regular where
  dated timer member := by
    rw [idle] at member
    contradiction
  orderly isOpen := .of_pending isOpen idle

theorem Regular.of_same (regular : session.Regular) (timeline : next.timeline = session.timeline)
    (typewriter : next.world.typewriter = session.world.typewriter) : next.Regular where
  dated := regular.dated.of_same timeline typewriter
  orderly isOpen := timeline ▸ regular.orderly (timeline ▸ isOpen)

/-- The clock may stand at a time when nothing more is due. -/
theorem Regular.settle {time : Int} {ran : Nat} (regular : session.Regular)
    (idle : session.timeline.closed = false → session.timeline.takeDue? time = none) :
    Regular (session.settle time ran) where
  dated := regular.dated.of_pending (fun _ member => member) (Nat.le_refl _)
  orderly isOpen := (regular.orderly isOpen).settle (idle isOpen)

theorem Regular.takeDue {time : Int} {timer : Timer (Alarm κ)} {timeline : Timeline (Alarm κ)}
    (regular : session.Regular)
    (taken : session.timeline.takeDue? time = some (timer, timeline)) :
    Regular { session with timeline } := by
  obtain ⟨rest, waiting, _, made⟩ := Timeline.takeDue?_eq_some.mp taken
  constructor
  · refine regular.dated.of_pending (fun other member => ?_) (Nat.le_refl _)
    rw [waiting]
    rw [← made] at member
    exact List.mem_cons_of_mem _ member
  · intro isOpen
    have before : session.timeline.closed = false := by
      rw [← made] at isOpen
      exact isOpen
    exact ((regular.orderly before).takeDue taken).2.2.2

variable [Device β] [DecidableEq κ]

/-! ## Tasks -/

/-- Only closing and calling off all timers does more to the timers than to set and cancel some. -/
theorem tends_act (callbacks : Callbacks κ η) {task : Task κ η} (close : task ≠ .request .close)
    (cancel : task ≠ .request .cancelTimers) (session : Session β κ η) :
    session.timeline.Tends (act callbacks task session).1.timeline := by
  cases task using Task.byKind with
  | move task moves => exact (continues_step callbacks moves session).timeline
  | request made =>
      by_cases plays : made.Plays
      · exact (tends_begin plays session).timeline
      · cases made with
        | start | advance | choose | restart | startTyping | skipTyping | update | flush =>
            exact absurd trivial plays
        | close => exact absurd rfl close
        | cancelTimers => exact absurd rfl cancel
        | later delay label cue => exact .later delay label _ .refl
        | stop => exact (tends_stopPlayer session).2.2.2.2
        | toggleMute =>
            simp only [act, begin]
            split <;> exact .refl
        | setMuted | frame | statistics | isClosed => exact .refl
        | gesture made =>
            simp only [act, begin]
            split <;> exact .refl
  | emit event => exact .refl
  | hear event => exact .refl
  | cue event cue => exact .refl
  | script caller rest =>
      obtain ⟨_, _, same⟩ := world_proceed session caller rest
      show session.timeline.Tends (proceed session caller rest).1.timeline
      rw [same]
      exact .refl
  | resume caller next => exact .refl
  | forgetListeners => exact .refl

/-- A task begins no move of the clock itself; at most it asks for one. -/
theorem targets_act (callbacks : Callbacks κ η) (task : Task κ η) (session : Session β κ η) :
    targets (act callbacks task session).2 = [] := by
  cases task with
  | request made =>
      cases made with
      | start | advance | choose | restart | close | startTyping | skipTyping =>
          exact targets_work _
      | update time =>
          simp only [act, begin]
          split <;> rfl
      | flush limit => rfl
      | toggleMute | stop | cancelTimers | later | setMuted | frame | statistics | isClosed => rfl
      | gesture made =>
          simp only [act, begin]
          split
          · rfl
          · exact targets_work _
  | deliver event listener => cases listener <;> rfl
  | reply | replyCount | resume | forgetListeners => rfl
  | emit | script | enterScene | enterDialogue | typeLine | beginTransition | awaitCommit | commit
  | awaitClear | clear | strike => exact targets_work _

/-- Closing a session leaves its clock as it stands. -/
theorem now_close (session : Session β κ η) :
    (Session.close session).1.timeline.now = session.timeline.now := by
  unfold Session.close
  split
  · rfl
  · rw [(closeSound_same _).1]
    have stopped := tends_stopPlayer
      (withStage session fun stage => { stage with closed := true })
    exact stopped.2.2.2.2.now

theorem keepsTime (callbacks : Callbacks κ η) :
    (clockwork callbacks : Clockwork (Alarm κ) (Stage β κ η) (Task κ η)).KeepsTime where
  now task session := by
    by_cases close : task = .request .close
    · subst close
      exact now_close session
    by_cases cancel : task = .request .cancelTimers
    · subst cancel
      rfl
    exact (tends_act callbacks close cancel session).now
  moves task session := targets_act callbacks task session

/-! ## Steps -/

theorem Regular.close (regular : session.Regular) : (Session.close session).1.Regular := by
  unfold Session.close
  split
  · exact regular
  · apply regular_of_idle
    rw [(closeSound_same _).1]
    rfl

/-- Every task leaves the timers in order. -/
theorem Regular.act (callbacks : Callbacks κ η) (regular : session.Regular) (task : Task κ η) :
    (Session.act callbacks task session).1.Regular := by
  by_cases close : task = .request .close
  · subst close
    exact regular.close
  by_cases cancel : task = .request .cancelTimers
  · subst cancel
    exact regular_of_idle rfl
  refine regular.tends (tends_act callbacks close cancel session) ?_
  by_cases silent : ∀ generation, task.isTyping generation = false
  · exact (treats_step callbacks silent (fun same => absurd same close) cancel).dated regular.dated
  · cases task with
    | strike generation =>
        exact (regular.dated.withTyped (Typewriter.dates_strike _ _ generation)).heed _
    | emit event => exact regular.dated.of_same rfl rfl
    | request | reply | replyCount | deliver | script | resume | enterScene | enterDialogue
    | typeLine | beginTransition | awaitCommit | commit | awaitClear | clear | forgetListeners =>
        exact absurd (fun _ => rfl) silent

/-- The timeline of a session is closed with the session, and by nothing else. -/
theorem isOpen_step (callbacks : Callbacks κ η) (job : Job (Task κ η))
    (isOpen : session.world.closed = false → session.timeline.closed = false)
    (still : ((clockwork callbacks).step job session).1.world.closed = false) :
    ((clockwork callbacks).step job session).1.timeline.closed = false := by
  by_cases close : job = .work (.request .close)
  · subst close
    have closed : (Session.close session).1.world.closed = false := still
    rw [closed_close] at closed
    contradiction
  · have before := isOpen ((stays_step callbacks close session).1.symm.trans still)
    by_cases clock : ∀ task, job ≠ .work task
    · cases (clockwork callbacks).runs before clock with
      | carries ran step | begins time _ step | settles time ran _ _ step =>
          rw [step]
          exact before
      | fires time ran timer timeline _ taken step =>
          rw [step]
          obtain ⟨_, _, _, rfl⟩ := Timeline.takeDue?_eq_some.mp taken
          exact before
    · obtain ⟨task, rfl⟩ : ∃ task, job = .work task := by simpa using clock
      by_cases cancel : task = .request .cancelTimers
      · subst cancel
        exact before
      · have tends := tends_act callbacks (fun same => close (same ▸ rfl)) cancel session
        exact tends.shut.trans before

/-- Every job leaves the timers in order. -/
theorem Regular.step (callbacks : Callbacks κ η) (regular : session.Regular)
    (job : Job (Task κ η)) :
    Regular ((clockwork callbacks).step job session).1 := by
  cases job with
  | work task => exact regular.act callbacks task
  | update time =>
      simp only [Clockwork.step]
      split <;> exact regular.of_same rfl rfl
  | drain time ran =>
      cases taken : session.timeline.takeDue? time with
      | none =>
          rw [Clockwork.step_drain_idle taken]
          exact regular.settle fun _ => taken
      | some found =>
          rw [Clockwork.step_drain_fire taken]
          exact regular.takeDue taken
  | drained time ran =>
      simp only [Clockwork.step]
      split
      · next closed =>
          exact regular.settle fun isOpen => by rw [isOpen] at closed; contradiction
      · exact regular
  | flush limit ran =>
      simp only [Clockwork.step]
      split
      · exact regular.of_same rfl rfl
      · split <;> exact regular.of_same rfl rfl
  | flushed limit ran => exact regular

variable {callbacks : Callbacks κ η} {admits : Admission β κ η}
  {left jobs : List (Job (Task κ η))} {first : Session β κ η}

theorem Unfolds.regular (unfolds : Unfolds callbacks admits left first jobs session)
    (regular : first.Regular) : session.Regular := by
  apply unfolds.invariant Regular regular
  · intro job session regular
    exact regular.step callbacks job
  · intro session name cue regular
    exact regular.of_same rfl rfl

theorem Unfolds.ticking (unfolds : Unfolds callbacks admits left first jobs session)
    (ticking : first.timeline.closed = false) (isOpen : session.world.closed = false) :
    session.timeline.closed = false := by
  apply unfolds.invariant
    (fun session => session.world.closed = false → session.timeline.closed = false)
    (fun _ => ticking) _ _ isOpen
  · intro job session before
    exact isOpen_step callbacks job before
  · intro session name cue before
    exact before

omit [Device β] in
theorem regular_new (novel : Novel) (preferences : Preferences) (device : β) (now : Int)
    (notes : η) : (new novel preferences device now notes : Session β κ η).Regular :=
  regular_of_idle rfl

end VisualNovel.Playback.Session
