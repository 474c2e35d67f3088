import VisualNovel.Proofs.Clock.Nesting
import VisualNovel.Proofs.Clock.Tending
import VisualNovel.Proofs.Playback.Conducting
import VisualNovel.Proofs.Playback.Typewriter

/-!
# Lines that are spared

Whatever is done in a session spares the line that is being typed, or it makes an end of
it, and that shows in the typewriter. What spares the line leaves its timer on the
timeline; and no timer is ever set for a line that is still to come.
-/

set_option autoImplicit false

namespace VisualNovel.Playback

open VisualNovel.Agenda VisualNovel.Clock VisualNovel.Event VisualNovel.Novel VisualNovel.Sound

variable {β κ η : Type}

def Alarm.reveals (generation : Nat) : Alarm κ → Bool
  | .strike struck => struck == generation
  | _ => false

def Event.isCompletion : Event → Bool
  | .typingComplete _ _ _ => true
  | _ => false

def Task.isTyping (generation : Nat) : Task κ η → Bool
  | .strike struck => struck == generation
  | .emit event => event.isCompletion
  | _ => false

namespace Typewriter

variable {typewriter : Typewriter} {timeline : Timeline (Alarm κ)}

structure Dates (typewriter : Typewriter) (timeline : Timeline (Alarm κ))
    (typed : Typed (Alarm κ)) : Prop where
  onward : typewriter.generation ≤ typed.typewriter.generation
  pending : ∀ timer ∈ typed.timeline.pending,
    timer ∈ timeline.pending ∨ timer.payload = .strike typed.typewriter.generation

theorem mem_pending_cancel? {number : Option Nat} {timer : Timer (Alarm κ)}
    (member : timer ∈ (timeline.cancel? number).pending) : timer ∈ timeline.pending := by
  cases number with
  | none => exact member
  | some number => exact (List.mem_filter.mp member).1

private theorem dates_setTimer {next : Typewriter} {after : Timeline (Alarm κ)}
    (onward : typewriter.generation ≤ next.generation)
    (fewer : ∀ timer ∈ after.pending, timer ∈ timeline.pending) :
    Dates typewriter timeline (next.setTimer .strike after) where
  onward := onward
  pending timer member := by
    rcases Timeline.mem_pending_later member with listed | ⟨_, made⟩
    · exact .inl (fewer timer listed)
    · exact .inr made

private theorem dates_cancel (typewriter : Typewriter) (timeline : Timeline (Alarm κ)) :
    Dates typewriter timeline (typewriter.cancel timeline) := by
  rw [cancel_eq]
  exact ⟨Nat.le_succ _, fun _ member => .inl (mem_pending_cancel? member)⟩

private theorem dates_start (typewriter : Typewriter) (timeline : Timeline (Alarm κ))
    (text : String) :
    Dates typewriter timeline (typewriter.start .strike text timeline).2 := by
  unfold start
  rw [cancel_eq]
  dsimp only
  split
  · exact ⟨Nat.le_succ _, fun _ member => .inl (mem_pending_cancel? member)⟩
  · split
    · exact ⟨Nat.le_succ _, fun _ member => .inl (mem_pending_cancel? member)⟩
    · exact dates_setTimer (Nat.le_succ _) fun _ member => mem_pending_cancel? member

private theorem dates_skip? {skipped : Signal × Typed (Alarm κ)}
    (skips : typewriter.skip? timeline = some skipped) : Dates typewriter timeline skipped.2 := by
  rw [skip?_eq] at skips
  split at skips
  · contradiction
  · obtain rfl := Option.some.inj skips
    exact ⟨Nat.le_refl _, fun _ member => .inl (mem_pending_cancel? member)⟩

theorem dates_strike (typewriter : Typewriter) (timeline : Timeline (Alarm κ))
    (generation : Nat) :
    Dates typewriter timeline (typewriter.strike .strike generation timeline).2 := by
  unfold strike
  split
  · dsimp only
    split
    · exact ⟨Nat.le_refl _, fun _ member => .inl member⟩
    · exact dates_setTimer (Nat.le_refl _) fun _ member => member
  · exact ⟨Nat.le_refl _, fun _ member => .inl member⟩

/-- A line that is skipped was being typed, and is not any more. -/
theorem skipped_ne {skipped : Signal × Typed (Alarm κ)}
    (skips : typewriter.skip? timeline = some skipped) : skipped.2.typewriter ≠ typewriter := by
  rw [skip?_eq] at skips
  split at skips
  · contradiction
  · next typing =>
      obtain rfl := Option.some.inj skips
      intro same
      have complete := congrArg (·.reveal.complete) same
      exact typing complete.symm

end Typewriter

namespace Session

def strikes (session : Session β κ η) (generation : Nat) : List (Timer (Alarm κ)) :=
  session.timeline.pending.filter (·.payload.reveals generation)

def completions (session : Session β κ η) : List (Int × Event) :=
  session.world.chronicle.filter (·.2.isCompletion)

def Dated (session : Session β κ η) : Prop :=
  ∀ timer ∈ session.timeline.pending, ∀ generation,
    timer.payload = .strike generation → generation ≤ session.world.typewriter.generation

structure Spares (session : Session β κ η)
    (decision : Session β κ η × List (Job (Task κ η))) : Prop where
  typewriter : decision.1.world.typewriter = session.world.typewriter
  strikes : ∀ generation, decision.1.strikes generation = session.strikes generation
  stopped : decision.1.world.stopped = session.world.stopped
  completions : decision.1.completions = session.completions
  calm : ∀ job ∈ decision.2, ∀ generation, job.any (Task.isTyping generation) = false

/-- What is decided spares the line that is being typed or makes an end of it. -/
inductive Treats (session : Session β κ η)
    (decision : Session β κ η × List (Job (Task κ η))) : Prop where
  | spares : session.Spares decision → Treats session decision
  | ends : decision.1.world.typewriter ≠ session.world.typewriter →
      (session.Dated → decision.1.Dated) → Treats session decision

variable {session middle next : Session β κ η} {move : Move β κ η}

/-! ## Timers that are dated -/

theorem Dated.of_pending (dated : session.Dated)
    (fewer : ∀ timer ∈ next.timeline.pending, timer ∈ session.timeline.pending)
    (onward : session.world.typewriter.generation ≤ next.world.typewriter.generation) :
    next.Dated :=
  fun timer member generation struck =>
    Nat.le_trans (dated timer (fewer timer member) generation struck) onward

theorem Dated.of_same (dated : session.Dated) (timeline : next.timeline = session.timeline)
    (typewriter : next.world.typewriter = session.world.typewriter) : next.Dated :=
  dated.of_pending (fun _ member => timeline ▸ member)
    (Nat.le_of_eq (congrArg Typewriter.generation typewriter.symm))

theorem Dated.withTyped {typed : Typed (Alarm κ)} (dated : session.Dated)
    (dates : Typewriter.Dates session.world.typewriter session.timeline typed) :
    (withTyped session typed).Dated := by
  intro timer member generation struck
  rcases dates.pending timer member with listed | made
  · exact Nat.le_trans (dated timer listed generation struck) dates.onward
  · rw [made] at struck
    exact Nat.le_of_eq (Alarm.strike.inj struck).symm

theorem heed_same (session : Session β κ η) (signals : List Signal) :
    (heed session signals).1.timeline = session.timeline ∧
      (heed session signals).1.world.typewriter = session.world.typewriter := by
  induction signals generalizing session with
  | nil => exact ⟨rfl, rfl⟩
  | cons signal signals hypothesis =>
      cases signal with
      | progress | complete => exact hypothesis _

theorem Dated.heed (dated : session.Dated) (signals : List Signal) :
    (heed session signals).1.Dated :=
  dated.of_same (heed_same session signals).1 (heed_same session signals).2

theorem Dated.stopTyping (dated : session.Dated) : (stopTyping session).Dated :=
  dated.withTyped (Typewriter.dates_cancel _ _)

theorem Dated.cancelTransition (dated : session.Dated) : (cancelTransition session).Dated :=
  dated.of_pending (fun _ member => Typewriter.mem_pending_cancel? member) (Nat.le_refl _)

theorem generation_stopTyping (session : Session β κ η) :
    (stopTyping session).world.typewriter.generation =
      session.world.typewriter.generation + 1 := by
  show (session.world.typewriter.cancel session.timeline).typewriter.generation = _
  rw [Typewriter.cancel_eq]

/-! ## Decisions -/

theorem calm_works {tasks : List (Task κ η)}
    (calm : ∀ task ∈ tasks, ∀ generation, task.isTyping generation = false) :
    ∀ job ∈ tasks.map Job.work, ∀ generation, job.any (Task.isTyping generation) = false := by
  intro job member generation
  obtain ⟨task, listed, rfl⟩ := List.mem_map.mp member
  exact calm task listed generation

private theorem calm_of_all {made : List (Job (Task κ η))}
    (calm : ∀ generation, ∀ job ∈ made, job.all (fun task => !task.isTyping generation) = true) :
    ∀ job ∈ made, ∀ generation, job.any (Task.isTyping generation) = false := by
  intro job member generation
  have holds := calm generation job member
  cases job with
  | work task => simpa [Job.all, Job.any] using holds
  | update | drain | drained | flush | flushed => rfl

theorem spares_of_same {made : List (Job (Task κ η))}
    (typewriter : next.world.typewriter = session.world.typewriter)
    (timeline : next.timeline = session.timeline)
    (stopped : next.world.stopped = session.world.stopped)
    (chronicle : next.world.chronicle = session.world.chronicle)
    (calm : ∀ job ∈ made, ∀ generation, job.any (Task.isTyping generation) = false) :
    session.Treats (next, made) :=
  .spares ⟨typewriter, fun generation => by simp only [strikes, timeline], stopped,
    by simp only [completions, chronicle], calm⟩

/-- A line of a later generation was begun, or is still to come. -/
theorem ends_of_later {made : List (Job (Task κ η))}
    (later : next.world.typewriter.generation = session.world.typewriter.generation + 1)
    (dated : session.Dated → next.Dated) : session.Treats (next, made) := by
  refine .ends (fun same => ?_) dated
  rw [congrArg Typewriter.generation same] at later
  omega

private theorem spares_later {made : List (Job (Task κ η))} {delay : Int} {label : String}
    {alarm : Alarm κ} (other : ∀ generation, alarm.reveals generation = false)
    (timeline : next.timeline = (session.timeline.later delay label alarm).2)
    (typewriter : next.world.typewriter = session.world.typewriter)
    (stopped : next.world.stopped = session.world.stopped)
    (chronicle : next.world.chronicle = session.world.chronicle)
    (calm : ∀ job ∈ made, ∀ generation, job.any (Task.isTyping generation) = false) :
    session.Treats (next, made) := by
  refine .spares ⟨typewriter, fun generation => ?_, stopped,
    by simp only [completions, chronicle], calm⟩
  simp only [strikes, timeline]
  unfold Timeline.later
  dsimp only
  split
  · rfl
  · exact filter_insertTimer (other generation)

/-- A move that spares the line makes no difference to it, or begins to enter another one. -/
theorem Types.treats (types : session.Types move) (made : List (Job (Task κ η))) :
    session.Treats (move.1, made) := by
  cases types with
  | begins dialogue _ _ =>
      apply ends_of_later
      · rw [(heed_same _ _).2]
        exact Typewriter.start_generation ..
      · intro dated
        have shown : (withPosition session fun position =>
            { position with textLength := dialogue.text.length, revealed := 0 }).Dated :=
          dated.of_same rfl rfl
        exact (shown.withTyped (Typewriter.dates_start _ _ _)).heed _
  | skips _ skips =>
      refine .ends ?_ fun dated => (dated.withTyped (Typewriter.dates_skip? skips)).heed _
      rw [(heed_same _ _).2]
      exact Typewriter.skipped_ne skips

private theorem treats_finish (session : Session β κ η) : session.Treats (jobs (finish session)) :=
  ends_of_later (generation_stopTyping session) fun dated => dated.stopTyping.of_same rfl rfl

theorem Decides.treats (decides : session.Decides move) : session.Treats (jobs move) := by
  cases decides with
  | refuses | nothingToPlay | starts | follows | crosses | picks =>
      refine spares_of_same rfl rfl rfl rfl (calm_works ?_)
      simp [refuse, Task.isTyping, Event.isCompletion]
  | types types => exact types.treats _
  | ends => exact treats_finish session
  | restarts =>
      exact ends_of_later (generation_stopTyping session)
        fun dated => dated.stopTyping.cancelTransition.of_same rfl rfl

/-! ## Tasks -/

theorem treats_setPhase {alarm : Alarm κ} (other : ∀ generation, alarm.reveals generation = false)
    (session : Session β κ η) (delay : Int) (label : String) :
    session.Treats (jobs (setPhase session delay label alarm, [])) :=
  spares_later other rfl rfl rfl rfl (by simp)

private theorem treats_enterDialogue (session : Session β κ η) :
    session.Treats (jobs (enterDialogue session)) := by
  unfold enterDialogue
  cases session.world.dialogue? with
  | none =>
      refine ends_of_later (generation_stopTyping _) fun dated => ?_
      exact Dated.stopTyping (dated.of_same rfl rfl)
  | some dialogue =>
      exact spares_of_same rfl rfl rfl rfl
        (calm_works (by simp [Task.isTyping, Event.isCompletion]))

private theorem treats_typeLine (session : Session β κ η) :
    session.Treats (jobs ((typeLine? session).getD (session, []))) := by
  cases types : typeLine? session with
  | none => exact spares_of_same rfl rfl rfl rfl (by simp)
  | some move => exact (types_of_typeLine? types).treats _

private theorem treats_beginTransition (session : Session β κ η) (target : Int) :
    session.Treats (jobs (beginTransition session target)) :=
  ends_of_later (generation_stopTyping session) fun dated =>
    (Dated.cancelTransition (dated.stopTyping.of_same rfl rfl)).of_same rfl rfl

private theorem treats_awaitCommit (session : Session β κ η) (generation : Nat) (target : Int)
    (timing : Timing) : session.Treats (jobs (awaitCommit session generation target timing)) := by
  unfold awaitCommit
  split
  · exact spares_of_same rfl rfl rfl rfl (calm_works (by simp [Task.isTyping]))
  · exact treats_setPhase (fun _ => rfl) session _ _

private theorem treats_commit (session : Session β κ η) (generation : Nat) (target : Int)
    (timing : Timing) : session.Treats (jobs (commit session generation target timing)) := by
  unfold commit
  split
  · exact spares_of_same rfl rfl rfl rfl (by simp)
  · exact spares_of_same rfl rfl rfl rfl (calm_works (by simp [Task.isTyping, Event.isCompletion]))

private theorem treats_awaitClear (session : Session β κ η) (generation : Nat) (timing : Timing) :
    session.Treats (jobs (awaitClear session generation timing)) := by
  unfold awaitClear
  split
  · exact spares_of_same rfl rfl rfl rfl (by simp)
  · split
    · exact spares_of_same rfl rfl rfl rfl (calm_works (by simp [Task.isTyping]))
    · exact treats_setPhase (fun _ => rfl) session _ _

private theorem treats_clear (session : Session β κ η) (generation : Nat) :
    session.Treats (jobs (clear session generation)) := by
  unfold clear
  split
  · exact spares_of_same rfl rfl rfl rfl (by simp)
  · exact spares_of_same rfl rfl rfl rfl (calm_works (by simp [Task.isTyping, Event.isCompletion]))

variable [Device β] [DecidableEq κ]

private theorem treats_move (callbacks : Callbacks κ η) {task : Task κ η}
    (moves : task.isMove = true)
    (other : ∀ generation, task ≠ .strike generation) (session : Session β κ η) :
    session.Treats ((clockwork callbacks).step (.work task) session) := by
  cases task with
  | reply | replyCount =>
      exact spares_of_same rfl rfl rfl rfl (by simp)
  | enterScene =>
      exact spares_of_same rfl rfl rfl rfl
        (calm_works (by simp [enterScene, Task.isTyping, Event.isCompletion]))
  | enterDialogue => exact treats_enterDialogue session
  | typeLine => exact treats_typeLine session
  | beginTransition target => exact treats_beginTransition session target
  | awaitCommit generation target timing =>
      exact treats_awaitCommit session generation target timing
  | commit generation target timing => exact treats_commit session generation target timing
  | awaitClear generation timing => exact treats_awaitClear session generation timing
  | clear generation => exact treats_clear session generation
  | strike generation => exact absurd rfl (other generation)
  | request | emit | deliver | script | resume | forgetListeners => contradiction

/-- Closing a session whose player goes on makes an end of the line. -/
theorem generation_close (isOpen : session.world.closed = false)
    (playing : session.world.stopped = false) :
    (close session).1.world.typewriter.generation =
      session.world.typewriter.generation + 1 := by
  obtain ⟨bus, sound, warnings, world⟩ := world_close isOpen
  rw [world]
  simp only [stopPlayer, withStage, playing]
  exact generation_stopTyping _

theorem close_closed (closed : session.world.closed = true) :
    close session = (session, [.reply .nothing]) := by
  simp [close, closed]

private theorem treats_close (playing : session.world.stopped = false) :
    session.Treats (jobs (close session)) := by
  cases closed : session.world.closed with
  | true =>
      rw [close_closed closed]
      exact spares_of_same rfl rfl rfl rfl (calm_works (by simp [Task.isTyping]))
  | false =>
      show session.Treats ((close session).1, (close session).2.map .work)
      refine ends_of_later (generation_close closed playing) fun _ timer member => ?_
      have idle : (close session).1.timeline.pending = [] := by
        simp only [close, closed]
        exact congrArg Timeline.pending (closeSound_same _).1
      rw [idle] at member
      contradiction

/-- A request spares the line that is being typed or makes an end of it. -/
private theorem treats_begin {made : Request κ}
    (playing : made = .close → session.world.stopped = false) (cancel : made ≠ .cancelTimers) :
    session.Treats (begin session made) := by
  have move {move : Move β κ η} (asked : made.move? session = some move) :
      session.Treats (begin session made) := by
    obtain ⟨decision, begun, decides⟩ := decides_begin asked
    rw [begun]
    exact decides.treats
  cases made with
  | start | advance | choose | restart | startTyping | skipTyping => exact move rfl
  | toggleMute =>
      simp only [begin]
      split
      · exact spares_of_same rfl rfl rfl rfl (by simp)
      · exact spares_of_same rfl rfl rfl rfl (by simp)
  | update time =>
      simp only [begin]
      split
      · exact spares_of_same rfl rfl rfl rfl (by simp)
      · exact spares_of_same rfl rfl rfl rfl (by simp [Job.any, Task.isTyping])
  | close => exact treats_close (playing rfl)
  | stop =>
      simp only [begin, stopPlayer]
      split
      · exact spares_of_same rfl rfl rfl rfl (by simp)
      · refine ends_of_later (generation_stopTyping _) fun dated => ?_
        have stopped : (withStage session fun stage => { stage with stopped := true }).Dated :=
          dated.of_same rfl rfl
        exact stopped.stopTyping.cancelTransition.of_same rfl rfl
  | flush limit =>
      exact spares_of_same rfl rfl rfl rfl (by simp [Job.any, Task.isTyping])
  | cancelTimers => contradiction
  | later delay label cue =>
      exact spares_later (fun _ => rfl) rfl rfl rfl rfl (by simp)
  | setMuted | frame | statistics | isClosed =>
      exact spares_of_same rfl rfl rfl rfl (by simp)
  | gesture made =>
      simp only [begin]
      split
      · exact spares_of_same rfl rfl rfl rfl (by simp)
      · exact spares_of_same rfl rfl rfl rfl (calm_of_all fun generation =>
          works_meaning (fun _ => rfl) (fun _ => rfl) session made)

/-- What the callbacks, the host and the sound do, told of the line that is being typed. -/
theorem treats_step (callbacks : Callbacks κ η) {task : Task κ η}
    (silent : ∀ generation, task.isTyping generation = false)
    (playing : task = .request .close → session.world.stopped = false)
    (cancel : task ≠ .request .cancelTimers) :
    session.Treats ((clockwork callbacks).step (.work task) session) := by
  cases task using Task.byKind with
  | move task moves =>
      refine treats_move callbacks moves ?_ session
      rintro generation rfl
      simpa [Task.isTyping] using silent generation
  | request made =>
      exact treats_begin (fun same => playing (same ▸ rfl)) (fun same => cancel (same ▸ rfl))
  | emit event =>
      refine .spares ⟨rfl, fun _ => rfl, rfl, ?_, calm_works ?_⟩
      · exact List.filter_cons_of_neg (by simpa [Task.isTyping] using silent 0)
      · intro task member generation
        obtain ⟨listener, _, rfl⟩ := List.mem_map.mp member
        rfl
  | hear event =>
      cases event <;> exact spares_of_same rfl rfl rfl rfl (by simp)
  | cue event cue => exact spares_of_same rfl rfl rfl rfl (by simp [Job.any, Task.isTyping])
  | script caller rest =>
      obtain ⟨notes, warnings, same⟩ := world_proceed session caller rest
      show session.Treats (jobs (proceed session caller rest))
      refine spares_of_same ?_ ?_ ?_ ?_ (calm_of_all fun generation =>
        works_proceed (fun _ => rfl) (fun _ _ => rfl) session caller rest)
      · rw [same]
      · rw [same]
      · rw [same]
      · rw [same]
  | resume caller next => exact spares_of_same rfl rfl rfl rfl (by simp [Job.any, Task.isTyping])
  | forgetListeners => exact spares_of_same rfl rfl rfl rfl (by simp)

end Session

end VisualNovel.Playback
