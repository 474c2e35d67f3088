import VisualNovel.Proofs.Playback.Outline
import VisualNovel.Proofs.Sound.Filing

/-!
# What a session does to its sound

With everything it does, a session leaves its sound as it is, or calls it for
something and takes up the reports. Its sound is closed only with the session
itself, and only closing closes a session.
-/

set_option autoImplicit false

namespace VisualNovel.Playback

open VisualNovel.Agenda VisualNovel.Clock VisualNovel.Event VisualNovel.Novel VisualNovel.Sound

variable {β κ η : Type}

section Keeping

variable [Device β]

inductive Conducts (before : Coordinator β) : Coordinator β → Prop where
  | still : Conducts before before
  | answers (call : Coordinator.Call) : Conducts before (before.answer call).cleared

variable {before after : Coordinator β}

theorem Conducts.emptied (conducts : Conducts before after) (emptied : before.Emptied) :
    after.Emptied := by
  cases conducts with
  | still => exact emptied
  | answers call => exact (emptied.answer call).cleared

theorem Conducts.keeping [Faithful β] {before after : Coordinator (Watched β)}
    (conducts : Conducts before after) (keeping : before.Keeping) : after.Keeping := by
  cases conducts with
  | still => exact keeping
  | answers call => exact (keeping.answer call).cleared

theorem Conducts.silent (conducts : Conducts before after) (silent : before.Silent) :
    after.Silent ∧ after.desk.device = before.desk.device := by
  cases conducts with
  | still => exact ⟨silent, rfl⟩
  | answers call =>
      have same := congrArg Desk.device (silent.desk_answer call)
      exact ⟨(silent.answer call).cleared, same⟩

theorem Stage.conducts_hear (stage : Stage β κ η) (event : Event) :
    Conducts stage.sound (stage.hear event).sound := by
  cases event with
  | sceneEnter index scene => exact .answers (.enterScene scene)
  | dialogueEnter scene line dialogue => exact .answers (.enterDialogue (some dialogue))
  | finished scene line => exact .answers .finish
  | typingComplete | transitionStart | transitionCommit | transitionEnd | choiceSelect
  | restarted | closed => exact .still

end Keeping

namespace Session

theorem world_proceed (session : Session β κ η) (caller : Caller)
    (script : SessionScript κ η) :
    ∃ notes warnings, (proceed session caller script).1 =
      { session with world := { session.world with notes, warnings } } := by
  unfold proceed
  dsimp only
  split
  · exact ⟨_, _, rfl⟩
  · exact ⟨_, _, rfl⟩
  · exact ⟨_, _, rfl⟩

section Works

variable {holds : Task κ η → Bool} (requests : ∀ made, holds (.request made) = true)
include requests

theorem works_proceed (resumes : ∀ caller next, holds (.resume caller next) = true)
    (session : Session β κ η) (caller : Caller) (script : SessionScript κ η) :
    ∀ first ∈ (proceed session caller script).2.map Job.work, first.all holds = true := by
  unfold proceed
  dsimp only
  split
  · simp
  · simp
  · simp [Job.all, requests, resumes]

theorem works_meaning (replies : ∀ answer, holds (.reply answer) = true)
    (session : Session β κ η) (made : Gesture) :
    ∀ first ∈ (meaning session made).map Job.work, first.all holds = true := by
  cases made with
  | key name =>
      simp only [meaning]
      repeat' split
      all_goals simp [Job.all, requests, replies]
  | click | pick | replay | tick | leave => simp [meaning, Job.all, requests]

end Works

variable [Device β] {session : Session β κ η}

theorem Tends.conducts {next : Session β κ η} (tends : session.Tends next) :
    Conducts session.world.sound next.world.sound :=
  tends.sound.symm ▸ .still

variable [DecidableEq κ]

private theorem conducts_closeSound (session : Session β κ η) :
    Conducts session.world.sound (closeSound session).world.sound := by
  unfold closeSound withStage
  dsimp only
  split
  · exact .still
  · exact .answers .close

theorem closeSound_same (session : Session β κ η) :
    (closeSound session).timeline = session.timeline ∧
      (closeSound session).world.closed = session.world.closed ∧
      (closeSound session).world.stopped = session.world.stopped ∧
      (closeSound session).world.sound.closed = true := by
  unfold closeSound withStage
  dsimp only
  split
  · next closed => exact ⟨rfl, rfl, rfl, closed⟩
  · exact ⟨rfl, rfl, rfl, Coordinator.closed_close _⟩

theorem world_closeSound (session : Session β κ η) :
    ∃ bus sound warnings,
      (closeSound session).world = { session.world with bus, sound, warnings } := by
  unfold closeSound withStage
  dsimp only
  split
  · exact ⟨_, _, _, rfl⟩
  · exact ⟨_, _, _, rfl⟩

theorem world_close (isOpen : session.world.closed = false) :
    ∃ bus sound warnings, (close session).1.world =
      { (stopPlayer (withStage session fun stage => { stage with closed := true })).2.world with
        bus, sound, warnings } := by
  unfold close
  rw [if_neg (by simp [isOpen])]
  exact world_closeSound _

theorem closed_close (session : Session β κ η) : (close session).1.world.closed = true := by
  unfold close
  split
  · assumption
  · exact (closeSound_same _).2.1.trans (tends_stopPlayer _).2.1

theorem stopped_close (halts : session.world.closed = true → session.world.stopped = true) :
    (close session).1.world.stopped = true := by
  cases closed : session.world.closed with
  | true => simpa [close, closed] using halts closed
  | false =>
      obtain ⟨_, _, _, world⟩ := world_close closed
      rw [world]
      exact (tends_stopPlayer _).2.2.1

theorem finished_close (session : Session β κ η) :
    (close session).1.world.position.finished = session.world.position.finished := by
  cases closed : session.world.closed with
  | true => simp [close, closed]
  | false =>
      obtain ⟨_, _, _, world⟩ := world_close closed
      rw [world]
      exact (continues_stopPlayer _).finished

theorem conducts_close (session : Session β κ η) :
    Conducts session.world.sound (close session).1.world.sound := by
  unfold close
  split
  · exact .still
  · obtain ⟨same, _⟩ := tends_stopPlayer
      (withStage session fun stage => { stage with closed := true })
    have closes := conducts_closeSound
      { (stopPlayer (withStage session fun stage => { stage with closed := true })).2 with
        timeline := (stopPlayer
          (withStage session fun stage => { stage with closed := true })).2.timeline.close }
    dsimp only at closes
    rw [same] at closes
    exact closes

private theorem conducts_begin (session : Session β κ η) (made : Request κ) :
    Conducts session.world.sound (begin session made).1.world.sound := by
  by_cases plays : made.Plays
  · exact (tends_begin plays session).conducts
  · cases made with
    | toggleMute =>
        simp only [begin]
        split
        · exact .still
        · exact .answers (.setMuted (!session.world.sound.muted))
    | setMuted muted => exact .answers (.setMuted muted)
    | close => exact conducts_close session
    | stop => exact (tends_stopPlayer session).1.symm ▸ .still
    | cancelTimers | later | frame | statistics | isClosed => exact .still
    | gesture made =>
        simp only [begin]
        split
        · exact .still
        · exact .still
    | start | advance | choose | restart | startTyping | skipTyping | update | flush =>
        exact absurd trivial plays

/-- Only closing a session closes it or makes it forget who listens. -/
private theorem stays_begin {made : Request κ} (other : made ≠ .close) (session : Session β κ η) :
    (begin session made).1.world.closed = session.world.closed ∧
      (begin session made).1.world.bus = session.world.bus := by
  by_cases plays : made.Plays
  · have tends := tends_begin plays session
    exact ⟨tends.closed, tends.bus⟩
  · cases made with
    | toggleMute =>
        simp only [begin]
        split
        · exact ⟨rfl, rfl⟩
        · exact ⟨rfl, rfl⟩
    | close => contradiction
    | stop =>
        obtain ⟨_, closed, _, bus, _⟩ := tends_stopPlayer session
        exact ⟨closed, bus⟩
    | setMuted | cancelTimers | later | frame | statistics | isClosed => exact ⟨rfl, rfl⟩
    | gesture made =>
        simp only [begin]
        split
        · exact ⟨rfl, rfl⟩
        · exact ⟨rfl, rfl⟩
    | start | advance | choose | restart | startTyping | skipTyping | update | flush =>
        exact absurd trivial plays

/-- A step leaves the sound alone or calls it for something. -/
theorem conducts_step (callbacks : Callbacks κ η) (job : Job (Task κ η))
    (session : Session β κ η) :
    Conducts session.world.sound ((clockwork callbacks).step job session).1.world.sound := by
  cases job with
  | update | drain | drained | flush | flushed =>
      rw [Clockwork.world_step (by simp)]
      exact .still
  | work task =>
      cases task using Task.byKind with
      | move task moves => exact (continues_step callbacks moves session).toTends.conducts
      | request made => exact conducts_begin session made
      | hear event => exact session.world.conducts_hear event
      | cue event cue => exact .still
      | script caller rest =>
          obtain ⟨_, _, same⟩ := world_proceed session caller rest
          simp only [Clockwork.step, clockwork, act, jobs, same]
          exact .still
      | emit | resume | forgetListeners => exact .still

/-- Only closing closes a session, and those who listen stay until it forgets them. -/
theorem stays_step (callbacks : Callbacks κ η) {job : Job (Task κ η)}
    (other : job ≠ .work (.request .close)) (session : Session β κ η) :
    ((clockwork callbacks).step job session).1.world.closed = session.world.closed ∧
      (job ≠ .work .forgetListeners →
        ((clockwork callbacks).step job session).1.world.bus.listeners =
          session.world.bus.listeners) := by
  cases job with
  | update | drain | drained | flush | flushed =>
      rw [Clockwork.world_step (by simp)]
      exact ⟨rfl, fun _ => rfl⟩
  | work task =>
      cases task using Task.byKind with
      | move task moves =>
          have tends := (continues_step callbacks moves session).toTends
          exact ⟨tends.closed, fun _ => congrArg Bus.listeners tends.bus⟩
      | request made =>
          obtain ⟨closed, bus⟩ := stays_begin (fun same => other (same ▸ rfl)) session
          exact ⟨closed, fun _ => congrArg Bus.listeners bus⟩
      | hear event => cases event <;> exact ⟨rfl, fun _ => rfl⟩
      | cue event cue => exact ⟨rfl, fun _ => rfl⟩
      | script caller rest =>
          obtain ⟨_, _, same⟩ := world_proceed session caller rest
          show (proceed session caller rest).1.world.closed = _ ∧
            (_ → (proceed session caller rest).1.world.bus.listeners = _)
          rw [same]
          exact ⟨rfl, fun _ => rfl⟩
      | emit | resume => exact ⟨rfl, fun _ => rfl⟩
      | forgetListeners => exact ⟨rfl, fun impossible => absurd rfl impossible⟩

end Session

end VisualNovel.Playback
