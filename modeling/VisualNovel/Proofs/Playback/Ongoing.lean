import VisualNovel.Proofs.Playback.Timekeeping
import VisualNovel.Proofs.Playback.Urgency

/-!
# Playbacks that go on

While a playback is under way, at most one transition is, and at most one phase of
it is about to be done or has a timer. So nothing of a transition is left when none
is under way. A playback under way goes on to be so until the player is stopped or
ends it.
-/

set_option autoImplicit false

namespace VisualNovel.Playback

open VisualNovel.Agenda VisualNovel.Clock VisualNovel.Event VisualNovel.Novel VisualNovel.Sound

variable {β κ η : Type}

def Task.isPhase : Task κ η → Bool
  | .awaitCommit _ _ _ | .commit _ _ _ | .awaitClear _ _ | .clear _ => true
  | _ => false

def Task.isPlain : Task κ η → Bool
  | .awaitCommit _ _ _ | .commit _ _ _ | .awaitClear _ _ | .clear _ | .beginTransition _
  | .strike _ => false
  | _ => true

namespace Session

theorem isPhase_of_plain {job : Job (Task κ η)} (plain : job.all Task.isPlain = true) :
    job.any Task.isPhase = false := by
  cases job with
  | work task =>
      cases task with
      | awaitCommit | commit | awaitClear | clear => contradiction
      | request | reply | replyCount | emit | deliver | script | resume | enterScene
      | enterDialogue | typeLine | beginTransition | strike | forgetListeners => rfl
  | update | drain | drained | flush | flushed => rfl

theorem plain_told {tasks : List (Task κ η)}
    (told : tasks = [] ∨ ∃ scene line skipped,
      tasks = [.emit (.typingComplete scene line skipped)]) :
    ∀ first ∈ tasks.map Job.work, first.all Task.isPlain = true := by
  rcases told with rfl | ⟨_, _, _, rfl⟩
  · simp
  · simp [Job.all, Task.isPlain]

private theorem plain_enterDialogue (session : Session β κ η) :
    ∀ first ∈ (enterDialogue session).2.map Job.work, first.all Task.isPlain = true := by
  unfold enterDialogue
  cases session.world.dialogue? with
  | none => simp
  | some dialogue => simp [Job.all, Task.isPlain]

private theorem passes_typeLine (session : Session β κ η) :
    session.Passes ((typeLine? session).getD (session, [])).1 ∧
      ∀ first ∈ ((typeLine? session).getD (session, [])).2.map Job.work,
        first.all Task.isPlain = true := by
  cases types : typeLine? session with
  | none => exact ⟨.refl session, by simp⟩
  | some move =>
      have typed := types_of_typeLine? types
      exact ⟨typed.passes, plain_told typed.tasks⟩

structure Plays (session : Session β κ η) : Prop where
  clocked : session.Clocked
  isOpen : session.world.closed = false
  playing : session.world.stopped = false
  going : session.world.position.finished = false

structure Halted (session : Session β κ η) : Prop where
  stopped : session.world.stopped = true
  unfinished : session.world.position.finished = false

def Single (jobs : List (Job (Task κ η))) : Prop :=
  jobs.Pairwise fun above below =>
    below.any Task.isPhase = true →
      above.any Task.isPhase = false ∧ ∀ target, above ≠ .work (.beginTransition target)

structure Ongoing (jobs : List (Job (Task κ η))) (session : Session β κ η) : Prop
    extends Plays session where
  crossing : ∀ job ∈ jobs, job.any Task.isPhase = true →
    session.world.position.transitioning = true ∧ session.timeline.Keeps Alarm.isPhase none
  striking : ∀ generation, .work (.strike generation) ∈ jobs →
    session.timeline.Keeps Alarm.isStrike none
  single : Single jobs

variable {session next : Session β κ η} {job : Job (Task κ η)}
  {made rest : List (Job (Task κ η))}

theorem Plays.passes (plays : session.Plays) (passes : session.Passes next) : next.Plays where
  clocked := passes.clocked plays.clocked
  isOpen := (congrArg Footing.closed passes.footing).trans plays.isOpen
  playing := (congrArg Footing.stopped passes.footing).trans plays.playing
  going := (congrArg Footing.finished passes.footing).trans plays.going

theorem Plays.continues (plays : session.Plays) (continues : session.Continues next)
    (clocked : next.Clocked) : next.Plays where
  clocked := clocked
  isOpen := continues.closed.trans plays.isOpen
  playing := continues.stopped.trans plays.playing
  going := continues.finished.trans plays.going

theorem Plays.idle (plays : session.Plays) : Ongoing [] session :=
  { plays with crossing := by simp, striking := by simp, single := by simp [Single] }

theorem Plays.asked (plays : session.Plays) (asked : Request κ) :
    Ongoing [.work (.request asked)] session :=
  { plays with
    crossing := by simp [Job.any, Task.isPhase]
    striking := by simp
    single := by simp [Single] }

/-- Where nothing of a transition is left, whatever comes first decides. -/
theorem Plays.ongoing (plays : next.Plays)
    (calm : ∀ later ∈ rest, later.any Task.isUrgent = false)
    (phaseless : ∀ later ∈ rest, later.any Task.isPhase = false)
    (crossing : ∀ first ∈ made, first.any Task.isPhase = true →
      next.world.position.transitioning = true ∧ next.timeline.Keeps Alarm.isPhase none)
    (striking : ∀ generation, .work (.strike generation) ∈ made →
      next.timeline.Keeps Alarm.isStrike none)
    (single : Single made) : Ongoing (made ++ rest) next where
  toPlays := plays
  crossing := by
    intro job member phase
    rcases List.mem_append.mp member with first | later
    · exact crossing job first phase
    · rw [phaseless job later] at phase
      contradiction
  striking := by
    intro generation member
    rcases List.mem_append.mp member with first | later
    · exact striking generation first
    · cases calm _ later
  single := by
    refine List.pairwise_append.mpr ⟨single, ?_, ?_⟩
    · apply List.pairwise_of_forall_mem_list
      intro above _ below later phase
      rw [phaseless below later] at phase
      contradiction
    · intro above _ below later phase
      rw [phaseless below later] at phase
      contradiction

/-! ## Phases of a transition -/

structure Unrolls (move : Move β κ η) : Prop where
  clocked : move.1.Clocked
  crossing : ∀ first ∈ move.2.map Job.work, first.any Task.isPhase = true →
    move.1.world.position.transitioning = true ∧ move.1.timeline.Keeps Alarm.isPhase none
  striking : ∀ generation, Job.work (.strike generation) ∉ move.2.map .work
  single : Single (move.2.map .work)

theorem unrolls_nothing (clocked : next.Clocked) : Unrolls (next, ([] : List (Task κ η))) :=
  ⟨clocked, by simp, by simp, by simp [Single]⟩

private theorem unrolls_beginTransition (clocked : session.Clocked) (target : Int) :
    Unrolls (beginTransition session target) := by
  obtain ⟨begun, crossing, free⟩ := clocked.beginTransition target
  exact ⟨begun, fun _ _ _ => ⟨crossing, free⟩, by simp [beginTransition],
    by simp [beginTransition, Single, Job.any, Task.isPhase]⟩

variable (clocked : session.Clocked) (crossing : session.world.position.transitioning = true)
  (free : session.timeline.Keeps Alarm.isPhase none)
include clocked crossing free

private theorem unrolls_awaitCommit (generation : Nat) (target : Int) (timing : Timing) :
    Unrolls (awaitCommit session generation target timing) := by
  unfold awaitCommit
  split
  · exact ⟨clocked, fun _ _ _ => ⟨crossing, free⟩, by simp, by simp [Single]⟩
  · exact unrolls_nothing (clocked.setPhase crossing free _ _ rfl)

private theorem unrolls_commit (generation : Nat) (target : Int) (timing : Timing) :
    Unrolls (commit session generation target timing) := by
  unfold commit
  split
  · exact unrolls_nothing clocked
  · refine ⟨⟨clocked.numbered, clocked.strikes, free, clocked.rings, fun _ => free⟩,
      fun _ _ _ => ⟨crossing, free⟩, by simp, ?_⟩
    simp [Single, Job.any, Task.isPhase]

private theorem unrolls_awaitClear (generation : Nat) (timing : Timing) :
    Unrolls (awaitClear session generation timing) := by
  unfold awaitClear
  split
  · exact unrolls_nothing clocked
  · split
    · exact ⟨clocked, fun _ _ _ => ⟨crossing, free⟩, by simp, by simp [Single]⟩
    · exact unrolls_nothing (clocked.setPhase crossing free _ _ rfl)

omit crossing in
private theorem unrolls_clear (generation : Nat) : Unrolls (clear session generation) := by
  unfold clear
  split
  · exact unrolls_nothing clocked
  · refine ⟨⟨clocked.numbered, clocked.strikes, free, clocked.rings, fun _ => free⟩, ?_,
      by simp, by simp [Single]⟩
    simp [Job.any, Task.isPhase]

omit clocked crossing free

namespace Ongoing

theorem phaseless (ongoing : Ongoing (job :: rest) session)
    (settled : session.world.position.transitioning = false) :
    ∀ later ∈ rest, later.any Task.isPhase = false := by
  intro later member
  cases phase : later.any Task.isPhase with
  | false => rfl
  | true =>
      have crossing := (ongoing.crossing later (List.mem_cons_of_mem _ member) phase).1
      rw [settled] at crossing
      contradiction

theorem alone (ongoing : Ongoing (job :: rest) session)
    (busy : job.any Task.isPhase = true ∨ ∃ target, job = .work (.beginTransition target)) :
    ∀ later ∈ rest, later.any Task.isPhase = false := by
  intro later member
  cases phase : later.any Task.isPhase with
  | false => rfl
  | true =>
      obtain ⟨calm, sets⟩ := (List.pairwise_cons.mp ongoing.single).1 later member phase
      rcases busy with first | ⟨target, begins⟩
      · rw [calm] at first
        contradiction
      · exact absurd begins (sets target)

/-- What makes no difference to the transition leaves the rest as it was. -/
theorem passes (ongoing : Ongoing (job :: rest) session)
    (calm : ∀ later ∈ rest, later.any Task.isUrgent = false) (passes : session.Passes next)
    (plain : ∀ first ∈ made, first.all Task.isPlain = true) : Ongoing (made ++ rest) next where
  toPlays := ongoing.toPlays.passes passes
  crossing := by
    intro job member phase
    rcases List.mem_append.mp member with first | later
    · rw [isPhase_of_plain (plain job first)] at phase
      contradiction
    · obtain ⟨crossing, free⟩ :=
        ongoing.crossing job (List.mem_cons_of_mem _ later) phase
      exact ⟨passes.transitioning.trans crossing, passes.free free⟩
  striking := by
    intro generation member
    rcases List.mem_append.mp member with first | later
    · cases plain _ first
    · cases calm _ later
  single := by
    refine List.pairwise_append.mpr ⟨?_, (List.pairwise_cons.mp ongoing.single).2, ?_⟩
    · apply List.pairwise_of_forall_mem_list
      intro above _ below first phase
      rw [isPhase_of_plain (plain below first)] at phase
      contradiction
    · intro above first below _ _
      refine ⟨isPhase_of_plain (plain above first), ?_⟩
      rintro target rfl
      cases plain _ first

theorem unrolls {task : Task κ η} {move : Move β κ η}
    (ongoing : Ongoing (.work task :: rest) session)
    (calm : ∀ later ∈ rest, later.any Task.isUrgent = false)
    (busy : task.isPhase = true ∨ ∃ target, task = .beginTransition target)
    (continues : session.Continues move.1) (unrolls : Unrolls move) :
    Ongoing (move.2.map .work ++ rest) move.1 := by
  apply (ongoing.continues continues unrolls.clocked).ongoing calm
  · exact ongoing.alone (busy.imp_right fun ⟨target, begins⟩ => ⟨target, congrArg Job.work begins⟩)
  · exact unrolls.crossing
  · exact fun generation member => absurd member (unrolls.striking generation)
  · exact unrolls.single

/-! ## Moves -/

variable [Device β] [DecidableEq κ] {callbacks : Callbacks κ η}

/-- A move of the player leaves the playback going on. -/
theorem move {task : Task κ η} (ongoing : Ongoing (.work task :: rest) session)
    (calm : ∀ later ∈ rest, later.any Task.isUrgent = false) (moves : task.isMove = true) :
    Ongoing (((clockwork callbacks).step (.work task) session).2 ++ rest)
      ((clockwork callbacks).step (.work task) session).1 := by
  have clocked := ongoing.clocked
  have continues := continues_step callbacks moves session
  have passing (passes : session.Passes ((clockwork callbacks).step (.work task) session).1)
      (plain : ∀ first ∈ ((clockwork callbacks).step (.work task) session).2,
        first.all Task.isPlain = true) :=
    ongoing.passes calm passes plain
  have head := ongoing.crossing _ List.mem_cons_self
  cases task with
  | reply | replyCount =>
      apply passing (passes_of_same rfl rfl rfl rfl)
      simp [Clockwork.step, clockwork, act]
  | enterScene =>
      apply passing (passes_of_same rfl rfl rfl rfl)
      simp [Clockwork.step, clockwork, act, jobs, enterScene, Job.all, Task.isPlain]
  | enterDialogue => exact passing (passes_enterDialogue session) (plain_enterDialogue session)
  | typeLine => exact passing (passes_typeLine session).1 (passes_typeLine session).2
  | strike generation =>
      apply passing (passes_strike (ongoing.striking generation List.mem_cons_self) generation)
      exact plain_told (heed_tasks (withTyped session _) (tidy_strike _ _ _))
  | beginTransition target =>
      exact ongoing.unrolls calm (.inr ⟨target, rfl⟩) continues
        (unrolls_beginTransition clocked target)
  | awaitCommit generation target timing =>
      obtain ⟨crossing, free⟩ := head rfl
      exact ongoing.unrolls calm (.inl rfl) continues
        (unrolls_awaitCommit clocked crossing free generation target timing)
  | commit generation target timing =>
      obtain ⟨crossing, free⟩ := head rfl
      exact ongoing.unrolls calm (.inl rfl) continues
        (unrolls_commit clocked crossing free generation target timing)
  | awaitClear generation timing =>
      obtain ⟨crossing, free⟩ := head rfl
      exact ongoing.unrolls calm (.inl rfl) continues
        (unrolls_awaitClear clocked crossing free generation timing)
  | clear generation =>
      obtain ⟨_, free⟩ := head rfl
      exact ongoing.unrolls calm (.inl rfl) continues (unrolls_clear clocked free generation)
  | request | emit | deliver | script | resume | forgetListeners => contradiction

/-! ## The clock -/

omit [Device β] [DecidableEq κ] in
private theorem passes_now (session : Session β κ η) (now : Int) (ran : Nat) :
    session.Passes { session with timeline := { session.timeline with now }, ran } where
  clocked clocked := {
    numbered := ⟨clocked.numbered.known, clocked.numbered.distinct⟩
    strikes := clocked.strikes
    phases := clocked.phases
    rings := clocked.rings
    crossing := clocked.crossing }
  footing := rfl
  free free := free

omit [Device β] [DecidableEq κ] in
theorem strikes (ongoing : Ongoing rest session)
    (free : session.timeline.Keeps Alarm.isStrike none) (generation : Nat) :
    Ongoing (.work (.strike generation) :: rest) session where
  toPlays := ongoing.toPlays
  crossing := by
    intro job member phase
    rcases List.mem_cons.mp member with rfl | later
    · contradiction
    · exact ongoing.crossing job later phase
  striking _ _ := free
  single := List.pairwise_cons.mpr ⟨fun _ _ _ => ⟨rfl, by simp⟩, ongoing.single⟩

/-- The clock leaves the playback going on. -/
theorem clock (ongoing : Ongoing (job :: rest) session)
    (calm : ∀ later ∈ rest, later.any Task.isUrgent = false) (clock : ∀ task, job ≠ .work task) :
    Ongoing (((clockwork callbacks).step job session).2 ++ rest)
      ((clockwork callbacks).step job session).1 := by
  rcases Clockwork.step_clock_cases clock with
    ⟨now, ran, same, others⟩ | ⟨time, ran, timer, timeline, taken, fires⟩
  · rw [same]
    apply ongoing.passes calm (passes_now session now ran)
    exact fun first member => Job.all_of_clock (others first member)
  · obtain ⟨clocked, own, struck, crossed⟩ := ongoing.clocked.takeDue taken
    have passes : session.Passes { session with timeline } :=
      ⟨fun _ => clocked, rfl, fun free => free.takeDue taken⟩
    -- a phase whose timer was pending leaves no other to be done
    have phaseless (phase : timer.payload.isPhase = true) :
        ∀ later ∈ rest, later.any Task.isPhase = false := by
      intro later member
      cases busy : later.any Task.isPhase with
      | false => rfl
      | true =>
          obtain ⟨_, free⟩ := ongoing.crossing later (List.mem_cons_of_mem _ member) busy
          obtain ⟨others, waiting, _⟩ := Timeline.takeDue?_eq_some.mp taken
          cases free timer (waiting ▸ List.mem_cons_self) phase
    rw [fires]
    cases payload : timer.payload with
    | strike generation =>
        have drained : Ongoing ([.drained time (ran + 1)] ++ rest) { session with timeline } :=
          ongoing.passes calm passes (by simp [Job.all])
        have strikes := drained.strikes (struck (by rw [payload]; rfl)) generation
        simpa [clockwork, ring, payload] using strikes
    | commit | clear =>
        have phase : timer.payload.isPhase = true := by
          rw [payload]
          rfl
        apply (ongoing.toPlays.passes passes).ongoing calm (phaseless phase)
        · exact fun _ _ _ => crossed phase
        · simp [clockwork, ring, payload]
        · simp [clockwork, ring, payload, Single, Job.any]
    | ring cue =>
        rw [payload] at own
        contradiction

/-! ## What is not a move -/

/-- What is neither a move of the player nor a request leaves the playback going on. -/
theorem aside {task : Task κ η} (ongoing : Ongoing (.work task :: rest) session)
    (calm : ∀ later ∈ rest, later.any Task.isUrgent = false) (other : task.isMove = false)
    (unasked : ∀ made, task ≠ .request made) :
    Ongoing (((clockwork callbacks).step (.work task) session).2 ++ rest)
      ((clockwork callbacks).step (.work task) session).1 := by
  have passing (passes : session.Passes ((clockwork callbacks).step (.work task) session).1)
      (plain : ∀ first ∈ ((clockwork callbacks).step (.work task) session).2,
        first.all Task.isPlain = true) :=
    ongoing.passes calm passes plain
  cases task with
  | emit event =>
      apply passing (passes_of_same rfl rfl rfl rfl)
      intro first member
      obtain ⟨task, listed, rfl⟩ := List.mem_map.mp member
      obtain ⟨listener, _, rfl⟩ := List.mem_map.mp listed
      rfl
  | deliver event listener =>
      cases listener with
      | sound =>
          have same : ((clockwork callbacks).step (.work (.deliver event .sound)) session).2 = [] :=
            rfl
          cases event <;>
            exact passing (passes_of_same rfl rfl rfl rfl) (by simp [same])
      | cue cue =>
          apply passing (passes_of_same rfl rfl rfl rfl)
          simp [Clockwork.step, clockwork, act, Job.all, Task.isPlain]
  | script caller script =>
      obtain ⟨_, _, same⟩ := world_proceed session caller script
      apply passing
      · show session.Passes (proceed session caller script).1
        rw [same]
        exact passes_of_same rfl rfl rfl rfl
      · exact works_proceed (fun _ => rfl) (fun _ _ => rfl) session caller script
  | resume caller next =>
      apply passing (passes_of_same rfl rfl rfl rfl)
      simp [Clockwork.step, clockwork, act, Job.all, Task.isPlain]
  | forgetListeners =>
      apply passing (passes_of_same rfl rfl rfl rfl)
      simp [Clockwork.step, clockwork, act]
  | request made => exact absurd rfl (unasked made)
  | reply | replyCount | enterScene | enterDialogue | typeLine | beginTransition | awaitCommit
  | commit | awaitClear | clear | strike => contradiction

/-! ## Requests -/

omit [Device β] [DecidableEq κ] in
/-- What a player decides lets the playback go on, or is its end. -/
theorem decided {job : Job (Task κ η)} {move : Move β κ η}
    (ongoing : Ongoing (job :: rest) session)
    (calm : ∀ later ∈ rest, later.any Task.isUrgent = false)
    (decides : session.Decides move) :
    Ongoing (move.2.map .work ++ rest) move.1 ∨
      move = finish session ∧ session.world.isActive = true ∧
        session.world.position.transitioning = false := by
  have answer (value : Bool) :
      ∀ first ∈ [Task.reply (.flag value)].map Job.work,
        (first : Job (Task κ η)).all Task.isPlain = true := by
    simp [Job.all, Task.isPlain]
  cases decides with
  | refuses => exact .inl (ongoing.passes calm (.refl session) (answer false))
  | nothingToPlay =>
      exact .inl (ongoing.passes calm (passes_of_same rfl rfl rfl rfl) (answer false))
  | starts idle =>
      left
      refine ongoing.passes calm (passes_of_same rfl rfl rfl rfl) ?_
      simp [Job.all, Task.isPlain]
  | types types =>
      left
      apply ongoing.passes calm types.passes
      rw [List.map_append]
      intro first member
      rcases List.mem_append.mp member with told | reply
      · exact plain_told types.tasks first told
      · exact answer true first reply
  | follows going =>
      left
      refine ongoing.passes calm (passes_of_same rfl rfl rfl rfl) ?_
      simp [Job.all, Task.isPlain]
  | crosses target going settled =>
      left
      apply ongoing.toPlays.ongoing calm (ongoing.phaseless settled)
      · simp [Job.any, Task.isPhase]
      · simp
      · simp [Single, Job.any, Task.isPhase]
  | picks choice target going settled =>
      left
      apply ongoing.toPlays.ongoing calm (ongoing.phaseless settled)
      · simp [Job.any, Task.isPhase]
      · simp
      · simp [Single, Job.any, Task.isPhase]
  | ends active going settled shown => exact .inr ⟨rfl, active, settled⟩
  | restarts active ended =>
      rw [ongoing.going] at ended
      contradiction

/-- Whatever is asked for, the playback goes on, or its player is stopped or ends it. -/
theorem request {asked : Request κ} (ongoing : Ongoing (.work (.request asked) :: rest) session)
    (calm : ∀ later ∈ rest, later.any Task.isUrgent = false)
    (own : ∀ delay label cue, asked ≠ .later delay label cue) :
    Ongoing ((begin session asked).2 ++ rest) (begin session asked).1 ∨
      Halted (begin session asked).1 ∨
      begin session asked = jobs (finish session) ∧ session.world.isActive = true ∧
        session.world.position.transitioning = false := by
  have passing (passes : session.Passes (begin session asked).1)
      (plain : ∀ first ∈ (begin session asked).2, first.all Task.isPlain = true) :=
    ongoing.passes calm passes plain
  have moving {move : Move β κ η} (moves : asked.move? session = some move) :
      Ongoing ((begin session asked).2 ++ rest) (begin session asked).1 ∨
        begin session asked = jobs (finish session) ∧ session.world.isActive = true ∧
          session.world.position.transitioning = false := by
    obtain ⟨decision, begun, decides⟩ := decides_begin moves
    rw [begun]
    rcases ongoing.decided calm decides with goes | ⟨rfl, ends⟩
    · exact .inl goes
    · exact .inr ⟨rfl, ends⟩
  cases asked with
  | start | advance | choose | restart | startTyping | skipTyping =>
      exact (moving rfl).imp_right .inr
  | toggleMute =>
      left
      simp only [begin, ongoing.isOpen, Bool.false_eq_true, if_false] at passing ⊢
      exact passing (passes_of_same rfl rfl rfl rfl) (by simp)
  | update time =>
      left
      simp only [begin, ongoing.isOpen, Bool.false_eq_true, if_false] at passing ⊢
      exact passing (.refl session) (by simp [Job.all, Task.isPlain])
  | close =>
      right
      left
      refine ⟨stopped_close ?_, (finished_close session).trans ongoing.going⟩
      intro closed
      rw [ongoing.isOpen] at closed
      contradiction
  | stop =>
      right
      left
      have continues := continues_stopPlayer session
      exact ⟨continues.stopped, continues.finished.trans ongoing.going⟩
  | flush limit =>
      left
      exact passing (.refl session) (by simp [begin, Job.all, Task.isPlain])
  | cancelTimers =>
      left
      refine passing ⟨fun _ => clocked_of_idle rfl, rfl, fun _ => ?_⟩ (by simp [begin])
      exact Timeline.keeps_of_idle rfl
  | later delay label cue => exact absurd rfl (own delay label cue)
  | setMuted | frame | statistics | isClosed =>
      left
      exact passing (passes_of_same rfl rfl rfl rfl) (by simp [begin])
  | gesture made =>
      left
      simp only [begin, ongoing.isOpen, Bool.false_eq_true, if_false] at passing ⊢
      exact passing (.refl session) (works_meaning (fun _ => rfl) (fun _ => rfl) session made)

theorem step (ongoing : Ongoing (job :: rest) session)
    (calm : ∀ later ∈ rest, later.any Task.isUrgent = false)
    (own : ∀ delay label cue, job ≠ .work (.request (.later delay label cue))) :
    Ongoing (((clockwork callbacks).step job session).2 ++ rest)
        ((clockwork callbacks).step job session).1 ∨
      Halted ((clockwork callbacks).step job session).1 ∨
      (clockwork callbacks).step job session = jobs (finish session) ∧
        session.world.isActive = true ∧ session.world.position.transitioning = false := by
  cases job with
  | update | drain | drained | flush | flushed => exact .inl (ongoing.clock calm (by simp))
  | work task =>
      cases moves : task.isMove with
      | true => exact .inl (ongoing.move calm moves)
      | false =>
          by_cases asks : ∃ asked, task = .request asked
          · obtain ⟨asked, rfl⟩ := asks
            exact ongoing.request calm fun delay label cue same =>
              own delay label cue (congrArg (Job.work ∘ Task.request) same)
          · exact .inl (ongoing.aside calm moves fun asked same => asks ⟨asked, same⟩)

end Ongoing

/-! ## Playbacks that were stopped -/

namespace Halted

theorem continues (halted : session.Halted) (continues : session.Continues next) :
    next.Halted :=
  ⟨continues.stopped.trans halted.stopped, continues.finished.trans halted.unfinished⟩

theorem of_same (halted : session.Halted) (stopped : next.world.stopped = session.world.stopped)
    (position : next.world.position = session.world.position) : next.Halted :=
  ⟨stopped.trans halted.stopped, (congrArg Position.finished position).trans halted.unfinished⟩

theorem of_world (halted : session.Halted) (same : next.world = session.world) : next.Halted :=
  halted.of_same (congrArg Stage.stopped same) (congrArg Stage.position same)

theorem decided {move : Move β κ η} (halted : session.Halted) (decides : session.Decides move) :
    move.1.Halted := by
  have still : session.world.isActive = false := by simp [Stage.isActive, halted.stopped]
  cases decides with
  | refuses | nothingToPlay | starts | crosses | picks => exact halted.of_same rfl rfl
  | types types => exact halted.continues types.continues
  | follows _ => exact ⟨halted.stopped, halted.unfinished⟩
  | ends active _ _ _ | restarts active _ =>
      rw [still] at active
      contradiction

variable [Device β] [DecidableEq κ] {callbacks : Callbacks κ η}

/-- A request leaves a playback that was stopped before its end where it is. -/
theorem request (halted : session.Halted) (asked : Request κ) :
    (begin session asked).1.Halted := by
  have moving {move : Move β κ η} (moves : asked.move? session = some move) :
      (begin session asked).1.Halted := by
    obtain ⟨decision, begun, decides⟩ := decides_begin moves
    rw [begun]
    exact halted.decided decides
  cases asked with
  | start | advance | choose | restart | startTyping | skipTyping => exact moving rfl
  | toggleMute | update | gesture =>
      simp only [begin]
      split
      · exact halted.of_same rfl rfl
      · exact halted.of_same rfl rfl
  | close =>
      exact ⟨stopped_close fun _ => halted.stopped,
        (finished_close session).trans halted.unfinished⟩
  | stop =>
      have continues := continues_stopPlayer session
      exact ⟨continues.stopped, continues.finished.trans halted.unfinished⟩
  | flush | cancelTimers | later | setMuted | frame | statistics | isClosed =>
      exact halted.of_same rfl rfl

theorem step (halted : session.Halted) (job : Job (Task κ η)) :
    Halted ((clockwork callbacks).step job session).1 := by
  cases job with
  | update | drain | drained | flush | flushed =>
      exact halted.of_world (Clockwork.world_step (by simp))
  | work task =>
      cases task using Task.byKind with
      | move task moves => exact halted.continues (continues_step callbacks moves session)
      | request asked => exact halted.request asked
      | hear event => cases event <;> exact halted.of_same rfl rfl
      | cue event cue => exact halted
      | script caller rest =>
          obtain ⟨_, _, same⟩ := world_proceed session caller rest
          show (proceed session caller rest).1.Halted
          rw [same]
          exact halted.of_same rfl rfl
      | emit | forgetListeners => exact halted.of_same rfl rfl
      | resume => exact halted

end Halted

end Session

end VisualNovel.Playback
