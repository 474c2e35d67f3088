import VisualNovel.Proofs.Playback.Ongoing
import VisualNovel.Proofs.Playback.Sealing

/-!
# Playbacks that have ended

When a playback has ended, whatever is asked of it and whatever its callbacks do, it
stays where it ended until it is played again: no transition is under way, no timer
is left, neither a voice nor an effect is in its slot, and nothing is told but that
the session is closed.
-/

set_option autoImplicit false

namespace VisualNovel.Playback

open VisualNovel.Agenda VisualNovel.Clock VisualNovel.Event VisualNovel.Novel VisualNovel.Sound

variable {β κ η : Type}

def Task.isSettled : Task κ η → Bool
  | .emit event => event = .closed
  | .deliver event .sound => !event.isPlaced
  | .enterScene | .enterDialogue | .beginTransition _ | .awaitCommit _ _ _ | .commit _ _ _
  | .awaitClear _ _ | .clear _ | .strike _ => false
  | _ => true

namespace Session

theorem isSettled_of_calm {job : Job (Task κ η)} (calm : job.any Task.isUrgent = false)
    (stays : job.any Task.isEntry = false) (phaseless : job.any Task.isPhase = false) :
    job.all Task.isSettled = true := by
  cases job with
  | work task =>
      cases task with
      | emit | strike | enterScene | enterDialogue | beginTransition | awaitCommit | commit
      | awaitClear | clear => contradiction
      | deliver event listener =>
          cases listener with
          | sound => simpa [Job.all, Task.isSettled, Job.any, Task.isUrgent] using calm
          | cue cue => rfl
      | request | reply | replyCount | script | resume | typeLine | forgetListeners => rfl
  | update | drain | drained | flush | flushed => rfl

theorem isPhase_of_settled {job : Job (Task κ η)} (settled : job.all Task.isSettled = true) :
    job.any Task.isPhase = false := by
  cases job with
  | work task =>
      cases task with
      | awaitCommit | commit | awaitClear | clear => contradiction
      | request | reply | replyCount | emit | deliver | script | resume | enterScene
      | enterDialogue | typeLine | beginTransition | strike | forgetListeners => rfl
  | update | drain | drained | flush | flushed => rfl

private theorem settled_deliveries {event : Event} (placeless : event.isPlaced = false)
    (listeners : List (Listener κ)) :
    ∀ first ∈ (listeners.map (Task.deliver event)).map Job.work,
      (first : Job (Task κ η)).all Task.isSettled = true := by
  intro first member
  obtain ⟨task, listed, rfl⟩ := List.mem_map.mp member
  obtain ⟨listener, _, rfl⟩ := List.mem_map.mp listed
  cases listener with
  | sound => simp [Job.all, Task.isSettled, placeless]
  | cue cue => rfl

def replay (session : Session β κ η) : Move β κ η :=
  (withPosition (cancelTransition (stopTyping session)) fun _ => {},
    [.emit .restarted, .enterScene, .reply (.flag true)])

/-- The last that was told is that the playback has ended where it stands, unless the session was
closed since. -/
def EndTold (session : Session β κ η) : Prop :=
  ∃ clock later earlier,
    session.world.chronicle =
        later ++ (clock, .finished session.world.position.scene session.world.position.dialogue) ::
          earlier ∧
      ∀ told ∈ later, told.2 = .closed

/-- A playback that has ended, with no transition and no timers. -/
structure Over (session : Session β κ η) : Prop where
  started : session.world.started = true
  finished : session.world.position.finished = true
  settled : session.world.position.transitioning = false
  idle : session.timeline.pending = []

/-- A playback whose end was told and heard. -/
structure Concluded (session : Session β κ η) : Prop extends Over session where
  told : EndTold session
  hushed : session.world.sound.Hushed

variable {session next : Session β κ η} {job : Job (Task κ η)}
  {made rest : List (Job (Task κ η))}

theorem EndTold.of_same (told : EndTold session)
    (chronicle : next.world.chronicle = session.world.chronicle)
    (scene : next.world.position.scene = session.world.position.scene)
    (dialogue : next.world.position.dialogue = session.world.position.dialogue) :
    EndTold next := by
  unfold EndTold
  rw [chronicle, scene, dialogue]
  exact told

theorem Over.of_same (ended : session.Over) (started : next.world.started = session.world.started)
    (position : next.world.position = session.world.position)
    (pending : next.timeline.pending = session.timeline.pending) : next.Over where
  started := started.trans ended.started
  finished := (congrArg Position.finished position).trans ended.finished
  settled := (congrArg Position.transitioning position).trans ended.settled
  idle := pending.trans ended.idle

namespace Concluded

theorem of_same (concluded : session.Concluded)
    (started : next.world.started = session.world.started)
    (position : next.world.position = session.world.position)
    (chronicle : next.world.chronicle = session.world.chronicle)
    (sound : next.world.sound = session.world.sound)
    (pending : next.timeline.pending = session.timeline.pending) : next.Concluded where
  toOver := concluded.toOver.of_same started position pending
  told := concluded.told.of_same chronicle (congrArg Position.scene position)
    (congrArg Position.dialogue position)
  hushed := sound ▸ concluded.hushed

theorem typeLine? (concluded : session.Concluded) : session.typeLine? = none := by
  unfold Session.typeLine?
  simp only [concluded.finished, Bool.or_true, if_true]
  split <;> rfl

/-- A player whose playback has ended refuses what it is asked for, or plays it again. -/
theorem decided {move : Move β κ η} (concluded : session.Concluded)
    (decides : session.Decides move) :
    move.1.Concluded ∧ (∀ first ∈ move.2.map Job.work, first.all Task.isSettled = true) ∨
      session.world.isActive = true ∧ move = replay session := by
  have finished := concluded.finished
  cases decides with
  | refuses =>
      left
      exact ⟨concluded, by simp [refuse, Job.all, Task.isSettled]⟩
  | nothingToPlay =>
      left
      exact ⟨concluded.of_same rfl rfl rfl rfl rfl, by simp [refuse, Job.all, Task.isSettled]⟩
  | starts idle =>
      rw [concluded.started] at idle
      contradiction
  | types types =>
      cases types with
      | begins _ _ going =>
          rw [finished] at going
          contradiction
      | skips typing _ =>
          simp [Position.isTyping, finished] at typing
  | follows going | crosses _ going _ | picks _ _ going _ | ends _ going _ _ =>
      rw [finished] at going
      contradiction
  | restarts active _ => exact .inr ⟨active, rfl⟩

theorem stopPlayer (concluded : session.Concluded) : (stopPlayer session).2.Concluded := by
  have continues := continues_stopPlayer session
  have place : (Session.stopPlayer session).2.world.position.scene =
        session.world.position.scene ∧
      (Session.stopPlayer session).2.world.position.dialogue = session.world.position.dialogue ∧
      (Session.stopPlayer session).2.world.position.transitioning = false := by
    rcases position_stopPlayer session with same | cleared
    · rw [same]
      exact ⟨rfl, rfl, concluded.settled⟩
    · rw [cleared]
      exact ⟨rfl, rfl, rfl⟩
  have idle : (Session.stopPlayer session).2.timeline.pending = [] := by
    unfold Session.stopPlayer
    split
    · exact concluded.idle
    · apply Timeline.idle_cancel?
      unfold stopTyping
      rw [Typewriter.cancel_eq]
      exact Timeline.idle_cancel? concluded.idle _
  obtain ⟨scene, dialogue, settled⟩ := place
  constructor
  · exact ⟨continues.started.trans concluded.started, continues.finished.trans concluded.finished,
      settled, idle⟩
  · exact concluded.told.of_same continues.chronicle scene dialogue
  · exact continues.sound.symm ▸ concluded.hushed

variable [Device β] [DecidableEq κ] {callbacks : Callbacks κ η}

/-- Closing a session leaves its playback at its end. -/
theorem close (concluded : session.Concluded) (isOpen : session.world.closed = false)
    (emptied : session.world.sound.Emptied) : (close session).1.Concluded := by
  have marked : (withStage session fun stage => { stage with closed := true }).Concluded :=
    concluded.of_same rfl rfl rfl rfl rfl
  have halted := marked.stopPlayer
  have sealed := sealed_close isOpen emptied
  obtain ⟨_, _, _, world⟩ := world_close isOpen
  constructor
  · constructor
    · rw [world]
      exact halted.started
    · rw [world]
      exact halted.finished
    · rw [world]
      exact halted.settled
    · exact sealed.shut.idle
  · apply halted.told.of_same
    · rw [world]
    · rw [world]
    · rw [world]
  · exact sealed.silent.hushed

/-- A request leaves a playback at its end, unless it plays the novel again. -/
theorem request {asked : Request κ} (concluded : session.Concluded)
    (emptied : session.world.sound.Emptied)
    (own : ∀ delay label cue, asked ≠ .later delay label cue) :
    (begin session asked).1.Concluded ∧
        (∀ first ∈ (begin session asked).2, first.all Task.isSettled = true) ∨
      session.world.isActive = true ∧ begin session asked = jobs (replay session) := by
  have moving {move : Move β κ η} (moves : asked.move? session = some move) :
      (begin session asked).1.Concluded ∧
          (∀ first ∈ (begin session asked).2, first.all Task.isSettled = true) ∨
        session.world.isActive = true ∧ begin session asked = jobs (replay session) := by
    obtain ⟨decision, begun, decides⟩ := decides_begin moves
    rw [begun]
    exact (concluded.decided decides).imp_right fun ⟨active, replays⟩ =>
      ⟨active, congrArg jobs replays⟩
  have muting (muted : Bool) : (setMuted session muted).Concluded :=
    ⟨concluded.toOver.of_same rfl rfl rfl, concluded.told.of_same rfl rfl rfl,
      (concluded.hushed.setMuted muted).cleared⟩
  cases asked with
  | start | advance | choose | restart | startTyping | skipTyping => exact moving rfl
  | toggleMute =>
      left
      simp only [begin]
      split
      · exact ⟨concluded.of_same rfl rfl rfl rfl rfl, by simp⟩
      · exact ⟨(muting _).of_same rfl rfl rfl rfl rfl, by simp⟩
  | update time =>
      left
      simp only [begin]
      split
      · exact ⟨concluded.of_same rfl rfl rfl rfl rfl, by simp⟩
      · exact ⟨concluded, by simp [Job.all, Task.isSettled]⟩
  | close =>
      left
      cases closed : session.world.closed with
      | true =>
          have same : begin session (.close : Request κ) =
              jobs (session, [.reply .nothing]) := by
            simp [begin, Session.close, closed]
          rw [same]
          exact ⟨concluded, by simp [jobs, Job.all, Task.isSettled]⟩
      | false =>
          refine ⟨concluded.close closed emptied, ?_⟩
          simp [begin, Session.close, closed, jobs, Job.all, Task.isSettled]
  | stop =>
      left
      exact ⟨concluded.stopPlayer.of_same rfl rfl rfl rfl rfl, by simp [begin]⟩
  | flush limit =>
      left
      exact ⟨concluded, by simp [begin, Job.all, Task.isSettled]⟩
  | cancelTimers =>
      left
      refine ⟨concluded.of_same rfl rfl rfl rfl ?_, by simp [begin]⟩
      exact concluded.idle.symm
  | later delay label cue => exact absurd rfl (own delay label cue)
  | setMuted muted =>
      left
      exact ⟨(muting muted).of_same rfl rfl rfl rfl rfl, by simp [begin]⟩
  | frame | statistics | isClosed =>
      left
      exact ⟨concluded.of_same rfl rfl rfl rfl rfl, by simp [begin]⟩
  | gesture made =>
      left
      simp only [begin]
      split
      · exact ⟨concluded.of_same rfl rfl rfl rfl rfl, by simp⟩
      · exact ⟨concluded, works_meaning (fun _ => rfl) (fun _ => rfl) session made⟩

theorem clock (concluded : session.Concluded) (clock : ∀ task, job ≠ .work task) :
    Concluded ((clockwork callbacks).step job session).1 ∧
      ∀ first ∈ ((clockwork callbacks).step job session).2, first.all Task.isSettled = true := by
  rcases Clockwork.step_clock_cases clock with ⟨now, ran, same, others⟩ | ⟨_, _, _, _, taken, _⟩
  · rw [same]
    exact ⟨concluded.of_same rfl rfl rfl rfl rfl,
      fun first member => Job.all_of_clock (others first member)⟩
  · -- no timer is left that could go off
    obtain ⟨rest, waiting, _⟩ := Timeline.takeDue?_eq_some.mp taken
    rw [concluded.idle] at waiting
    contradiction

omit [Device β] [DecidableEq κ] in
/-- That the session is closed may be told after the end. -/
theorem tell (concluded : session.Concluded) : (emit session .closed).1.Concluded where
  toOver := concluded.toOver.of_same rfl rfl rfl
  told := by
    obtain ⟨clock, later, earlier, same, last⟩ := concluded.told
    refine ⟨clock, (session.timeline.now, .closed) :: later, earlier, ?_, ?_⟩
    · show _ :: session.world.chronicle = _
      rw [same]
      rfl
    · simpa using last
  hushed := concluded.hushed

/-- What is settled leaves a playback that has ended at rest, or plays it again. -/
theorem step (concluded : session.Concluded) (emptied : session.world.sound.Emptied)
    (settled : job.all Task.isSettled = true)
    (own : ∀ delay label cue, job ≠ .work (.request (.later delay label cue))) :
    Concluded ((clockwork callbacks).step job session).1 ∧
        (∀ first ∈ ((clockwork callbacks).step job session).2, first.all Task.isSettled = true) ∨
      session.world.isActive = true ∧
        (clockwork callbacks).step job session = jobs (replay session) := by
  cases job with
  | update | drain | drained | flush | flushed => exact .inl (concluded.clock (by simp))
  | work task =>
      cases task with
      | request asked =>
          exact concluded.request emptied fun delay label cue same =>
            own delay label cue (congrArg (Job.work ∘ Task.request) same)
      | reply | replyCount | forgetListeners =>
          left
          exact ⟨concluded.of_same rfl rfl rfl rfl rfl, by simp [Clockwork.step, clockwork, act]⟩
      | emit event =>
          left
          obtain rfl : event = .closed := of_decide_eq_true settled
          exact ⟨concluded.tell, settled_deliveries rfl _⟩
      | deliver event listener =>
          left
          cases listener with
          | sound =>
              refine ⟨?_, by simp [Clockwork.step, clockwork, act]⟩
              cases event with
              | sceneEnter | dialogueEnter | finished => contradiction
              | typingComplete | transitionStart | transitionCommit | transitionEnd | choiceSelect
              | restarted | closed => exact concluded.of_same rfl rfl rfl rfl rfl
          | cue cue =>
              exact ⟨concluded, by simp [Clockwork.step, clockwork, act, Job.all, Task.isSettled]⟩
      | script caller script =>
          left
          obtain ⟨_, _, same⟩ := world_proceed session caller script
          constructor
          · show (proceed session caller script).1.Concluded
            rw [same]
            exact concluded.of_same rfl rfl rfl rfl rfl
          · exact works_proceed (fun _ => rfl) (fun _ _ => rfl) session caller script
      | resume caller next =>
          left
          exact ⟨concluded, by simp [Clockwork.step, clockwork, act, Job.all, Task.isSettled]⟩
      | typeLine =>
          left
          simp [Clockwork.step, clockwork, act, jobs, concluded.typeLine?, concluded]
      | strike | enterScene | enterDialogue | beginTransition | awaitCommit | commit | awaitClear
      | clear => contradiction

end Concluded

end Session

end VisualNovel.Playback
