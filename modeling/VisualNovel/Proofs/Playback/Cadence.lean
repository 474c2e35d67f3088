import VisualNovel.Proofs.Playback.Orderliness
import VisualNovel.Proofs.Playback.Urgency

/-!
# Lines typed in a session

A line that is left alone in a session shows its characters in time, whatever else goes
on: its timer waits among those of transitions and callbacks, goes off when it is due,
and is set again from there. That the line is complete is told at once when its last
character is revealed.
-/

set_option autoImplicit false

namespace VisualNovel.Playback.Session

open VisualNovel.Agenda VisualNovel.Clock VisualNovel.Event VisualNovel.Novel VisualNovel.Sound

variable {β κ η : Type}

/-- None of the jobs reveals a character of the line of a generation, or tells that a line is
complete. -/
def Calm (generation : Nat) (jobs : List (Job (Task κ η))) : Prop :=
  ∀ job ∈ jobs, job.any (Task.isTyping generation) = false

/-- A session that plays, with its timers in order, and no move of its clock overtaken. -/
structure Timed (jobs : List (Job (Task κ η))) (session : Session β κ η) : Prop where
  orderly : session.timeline.Orderly
  nested : Nested jobs session
  playing : session.world.stopped = false

/-- What there is of a line: what its typewriter stands at and how much of it shows, the timers
set for it, and the lines told to be complete. None of the jobs is its own. -/
structure Displays (line : Line) (typewriter : Typewriter) (shown : Nat)
    (timers : List (Timer (Alarm κ))) (told : List (Int × Event))
    (jobs : List (Job (Task κ η))) (session : Session β κ η) : Prop where
  typewriter : session.world.typewriter = typewriter
  revealed : session.world.position.revealed = shown
  length : session.world.position.textLength = line.text.length
  strikes : session.strikes line.generation = timers
  completions : session.completions = told
  calm : Calm line.generation jobs

/-- A line whose timer is waiting. When its time has come, a move of the clock is under way that
will make it go off. -/
structure Waits (line : Line) (before : List (Int × Event)) (count number : Nat)
    (jobs : List (Job (Task κ η))) (session : Session β κ η) : Prop
    extends Displays line (line.typing count number) count [line.timer .strike count number] before
      jobs session where
  unfinished : count < line.text.length
  since : line.due count ≤ session.timeline.now
  «until» : session.timeline.now ≤ line.due (count + 1)
  reached : session.timeline.now = line.due (count + 1) →
    ∃ target ∈ targets jobs, line.due (count + 1) ≤ target

structure Strikes (line : Line) (before : List (Int × Event)) (count number : Nat)
    (rest : List (Job (Task κ η))) (session : Session β κ η) : Prop
    extends Displays line (line.typing count number) count [] before rest session where
  unfinished : count < line.text.length
  now : session.timeline.now = line.due (count + 1)

structure Whole (line : Line) (completions : List (Int × Event))
    (jobs : List (Job (Task κ η))) (session : Session β κ η) : Prop
    extends Displays line line.typed line.text.length [] completions jobs session where
  since : line.due line.text.length ≤ session.timeline.now

/-- Where a line stands, with what is left to be done. -/
inductive Beats (line : Line) (before : List (Int × Event)) :
    List (Job (Task κ η)) → Session β κ η → Prop where
  | waits {count number : Nat} {jobs : List (Job (Task κ η))} {session : Session β κ η} :
      Waits line before count number jobs session → Beats line before jobs session
  | strikes {count number : Nat} {rest : List (Job (Task κ η))} {session : Session β κ η} :
      Strikes line before count number rest session →
      Beats line before (.work (.strike line.generation) :: rest) session
  | completes (scene dialogue : Int) {rest : List (Job (Task κ η))} {session : Session β κ η} :
      Whole line before rest session → session.timeline.now = line.due line.text.length →
      Beats line before (.work (.emit (.typingComplete scene dialogue false)) :: rest) session
  | rests (scene dialogue : Int) {jobs : List (Job (Task κ η))} {session : Session β κ η} :
      Whole line ((line.due line.text.length, .typingComplete scene dialogue false) :: before)
        jobs session →
      Beats line before jobs session

/-- What is done to a session while the line is left alone. -/
structure Leaves (session : Session β κ η)
    (decision : Session β κ η × List (Job (Task κ η))) : Prop
    extends session.Spares decision where
  timeline : session.timeline.Tends decision.1.timeline
  revealed : decision.1.world.position.revealed = session.world.position.revealed
  length : decision.1.world.position.textLength = session.world.position.textLength
  targets : targets decision.2 = []

variable {line : Line} {before : List (Int × Event)} {count number : Nat}
  {job : Job (Task κ η)} {made rest jobs : List (Job (Task κ η))} {session next : Session β κ η}

/-! ## Jobs that leave the line alone -/

theorem Calm.append (first : Calm line.generation made) (second : Calm line.generation rest) :
    Calm line.generation (made ++ rest) :=
  List.forall_mem_append.mpr ⟨first, second⟩

theorem Calm.tail (calm : Calm line.generation (job :: rest)) : Calm line.generation rest :=
  fun later member => calm later (List.mem_cons_of_mem _ member)

private theorem calm_of_clock (clock : ∀ first ∈ made, ∀ task, first ≠ .work task) :
    Calm line.generation made := by
  intro first member
  cases first with
  | work task => exact absurd rfl (clock _ member task)
  | update | drain | drained | flush | flushed => rfl

theorem Timed.tends {task : Task κ η} (timed : Timed (.work task :: rest) session)
    (tends : session.timeline.Tends next.timeline) (still : targets made = [])
    (stopped : next.world.stopped = session.world.stopped) : Timed (made ++ rest) next where
  orderly := timed.orderly.tends tends
  nested := timed.nested.carries still tends.now
  playing := stopped.trans timed.playing

theorem Displays.leaves {typewriter : Typewriter} {shown : Nat} {timers : List (Timer (Alarm κ))}
    (displays : Displays line typewriter shown timers before (job :: rest) session)
    (leaves : session.Leaves (next, made)) :
    Displays line typewriter shown timers before (made ++ rest) next where
  typewriter := leaves.typewriter.trans displays.typewriter
  revealed := leaves.revealed.trans displays.revealed
  length := leaves.length.trans displays.length
  strikes := (leaves.strikes _).trans displays.strikes
  completions := leaves.completions.trans displays.completions
  calm := Calm.append (fun first member => leaves.calm first member _) displays.calm.tail

theorem Waits.leaves {task : Task κ η}
    (waits : Waits line before count number (.work task :: rest) session)
    (leaves : session.Leaves (next, made)) :
    Waits line before count number (made ++ rest) next where
  toDisplays := waits.toDisplays.leaves leaves
  unfinished := waits.unfinished
  since := leaves.timeline.now ▸ waits.since
  «until» := leaves.timeline.now ▸ waits.until
  reached now := by
    obtain ⟨target, member, beyond⟩ := waits.reached (leaves.timeline.now ▸ now)
    refine ⟨target, ?_, beyond⟩
    rw [targets_append, leaves.targets]
    exact member

theorem Whole.leaves {task : Task κ η} {completions : List (Int × Event)}
    (whole : Whole line completions (.work task :: rest) session)
    (leaves : session.Leaves (next, made)) : Whole line completions (made ++ rest) next where
  toDisplays := whole.toDisplays.leaves leaves
  since := leaves.timeline.now ▸ whole.since

/-! ## The clock -/

variable {callbacks : Callbacks κ η} {timer : Timer (Alarm κ)} {timeline : Timeline (Alarm κ)}
  {time : Int} {ran : Nat}

/-- Taking a timer takes it from those of the line that it is for. -/
theorem strikes_takeDue (orderly : session.timeline.Orderly)
    (taken : session.timeline.takeDue? time = some (timer, timeline)) (generation : Nat) :
    session.strikes generation =
      (if timer.payload.reveals generation then [timer] else []) ++
        strikes { session with timeline } generation := by
  obtain ⟨waiting, _⟩ := orderly.takeDue taken
  simp only [strikes, waiting, List.filter_cons]
  split <;> rfl

private theorem calm_ring {generation : Nat} (other : timer.payload.reveals generation = false) :
    Calm generation ((ring callbacks timer).map Job.work ++ [.drained time ran]) := by
  unfold ring
  cases payload : timer.payload with
  | strike struck =>
      rw [payload] at other
      simpa [Calm, Job.any, Task.isTyping, Alarm.reveals] using other
  | commit | clear | ring => simp [Calm, Job.any, Task.isTyping]

private theorem Waits.mem_pending (waits : Waits line before count number jobs session) :
    line.timer .strike count number ∈ session.timeline.pending := by
  have listed : line.timer .strike count number ∈ session.strikes line.generation := by
    rw [waits.strikes]
    exact List.mem_singleton_self _
  exact (List.mem_filter.mp listed).1

/-- The first of the timers is due no later than that of the line. -/
theorem Waits.next_le {later : List (Timer (Alarm κ))}
    (waits : Waits line before count number jobs session) (orderly : session.timeline.Orderly)
    (waiting : session.timeline.pending = timer :: later) :
    timer.due ≤ line.due (count + 1) := by
  have sorted := orderly.sorted
  have listed := waits.mem_pending
  rw [waiting] at sorted listed
  rcases List.mem_cons.mp listed with first | after
  · exact Int.le_of_eq (congrArg Timer.due first.symm)
  · have ordered := (List.pairwise_cons.mp sorted).1 _ after
    unfold Timer.precedes at ordered
    rcases ordered with sooner | ⟨same, _⟩
    · exact Int.le_of_lt sooner
    · exact Int.le_of_eq same

theorem Waits.settles (timed : Timed (.drain time ran :: rest) session)
    (waits : Waits line before count number (.drain time ran :: rest) session)
    (idle : session.timeline.takeDue? time = none) :
    Waits line before count number rest (session.settle time ran) := by
  have early : time < line.due (count + 1) :=
    timed.orderly.due_of_takeDue_eq_none idle _ waits.mem_pending
  exact { waits with
    since := Int.le_trans waits.since (timed.nested.now_le rfl)
    «until» := Int.le_of_lt early
    reached := fun now => absurd now (Int.ne_of_lt early)
    calm := waits.calm.tail }

/-- A timer that goes off is that of the line, or it leaves that waiting. -/
theorem Waits.fires (timed : Timed (.drain time ran :: rest) session)
    (waits : Waits line before count number (.drain time ran :: rest) session)
    (taken : session.timeline.takeDue? time = some (timer, timeline)) :
    Beats line before
      (((ring callbacks timer).map Job.work ++ [.drained time (ran + 1)]) ++ rest)
      { session with timeline } := by
  obtain ⟨waiting, due, now, _⟩ := timed.orderly.takeDue taken
  have strikes := (strikes_takeDue timed.orderly taken line.generation).symm.trans waits.strikes
  cases mine : timer.payload.reveals line.generation with
  | true =>
      rw [mine, if_pos rfl] at strikes
      obtain ⟨rfl, none⟩ := List.cons.inj strikes
      have struck : Strikes line before count number (.drained time (ran + 1) :: rest)
          { session with timeline } :=
        { waits with
          strikes := none
          now := now
          calm := List.forall_mem_cons.mpr ⟨rfl, waits.calm.tail⟩ }
      exact .strikes struck
  | false =>
      -- the timer of the line comes after this one, and the move goes on at least as far
      rw [mine, if_neg (by simp)] at strikes
      have past : session.timeline.now ≤ timer.due :=
        timed.orderly.ahead timer (waiting ▸ List.mem_cons_self)
      have soon : timer.due ≤ line.due (count + 1) := waits.next_le timed.orderly waiting
      refine .waits { waits with
        strikes := strikes
        since := now ▸ Int.le_trans waits.since past
        «until» := now ▸ soon
        reached := fun reached => ⟨time, ?_, ?_⟩
        calm := (calm_ring mine).append waits.calm.tail }
      · rw [targets_append, targets_fired]
        exact List.mem_cons_self
      · exact (now.symm.trans reached) ▸ due

/-- The timer of a line that was given up reveals nothing. -/
theorem strike_stale {generation : Nat}
    (stale : generation ≠ session.world.typewriter.generation) :
    strike session generation = (session, []) := by
  simp [strike, Typewriter.strike, stale, heed, withTyped]

variable [Device β] [DecidableEq κ]

/-- The jobs of the clock leave the timers in order and the moves of the clock nested. -/
theorem Timed.clock (timed : Timed (job :: rest) session) (clock : ∀ task, job ≠ .work task)
    (within : job.isWithin rest = true) :
    Timed (((clockwork callbacks).step job session).2 ++ rest)
      ((clockwork callbacks).step job session).1 := by
  obtain ⟨orderly, nested, playing⟩ := timed
  have moved := nested.step (keepsTime callbacks) within
  cases (clockwork callbacks).runs orderly.isOpen clock with
  | carries _ step | begins _ _ step =>
      rw [step] at moved ⊢
      exact ⟨orderly, moved, playing⟩
  | settles time ran drain idle step =>
      rw [step] at moved ⊢
      exact ⟨orderly.settle idle, moved, playing⟩
  | fires time ran timer timeline drain taken step =>
      rw [step] at moved ⊢
      exact ⟨(orderly.takeDue taken).2.2.2, moved, playing⟩

/-- The clock leaves the timer of the line waiting, or makes it go off. -/
theorem Waits.clock (timed : Timed (job :: rest) session)
    (waits : Waits line before count number (job :: rest) session)
    (clock : ∀ task, job ≠ .work task) :
    Beats line before (((clockwork callbacks).step job session).2 ++ rest)
      ((clockwork callbacks).step job session).1 := by
  cases (clockwork callbacks).runs timed.orderly.isOpen clock with
  | carries ran step others same =>
      rw [step]
      refine .waits { waits with
        reached := fun now => ?_, calm := (calm_of_clock others).append waits.calm.tail }
      rw [targets_append, same, ← targets_cons]
      exact waits.reached now
  | begins time update step =>
      subst update
      rw [step]
      refine .waits { waits with
        reached := fun now => ?_, calm := Calm.append (by simp [Calm, Job.any]) waits.calm.tail }
      obtain ⟨target, member, beyond⟩ := waits.reached now
      exact ⟨target, List.mem_cons_of_mem _ member, beyond⟩
  | settles time ran drain idle step =>
      subst drain
      rw [step]
      exact .waits (waits.settles timed idle)
  | fires time ran timer timeline drain taken step =>
      subst drain
      rw [step]
      exact waits.fires timed taken

/-- A line that shows as a whole goes on doing so while the clock moves. -/
theorem Whole.clock {completions : List (Int × Event)} (timed : Timed (job :: rest) session)
    (whole : Whole line completions (job :: rest) session) (clock : ∀ task, job ≠ .work task) :
    Whole line completions (((clockwork callbacks).step job session).2 ++ rest)
      ((clockwork callbacks).step job session).1 := by
  cases (clockwork callbacks).runs timed.orderly.isOpen clock with
  | carries ran step others same =>
      rw [step]
      exact { whole with calm := (calm_of_clock others).append whole.calm.tail }
  | begins time update step =>
      subst update
      rw [step]
      exact { whole with calm := Calm.append (by simp [Calm, Job.any]) whole.calm.tail }
  | settles time ran drain idle step =>
      subst drain
      rw [step]
      exact { whole with
        since := Int.le_trans whole.since (timed.nested.now_le rfl)
        calm := whole.calm.tail }
  | fires time ran timer timeline drain taken step =>
      subst drain
      rw [step]
      obtain ⟨waiting, _, now, _⟩ := timed.orderly.takeDue taken
      have past : session.timeline.now ≤ timer.due :=
        timed.orderly.ahead timer (waiting ▸ List.mem_cons_self)
      have strikes := (strikes_takeDue timed.orderly taken line.generation).symm.trans whole.strikes
      obtain ⟨other, none⟩ := List.append_eq_nil_iff.mp strikes
      have notMine : timer.payload.reveals line.generation = false := by
        simpa using other
      exact { whole with
        strikes := none
        since := now ▸ Int.le_trans whole.since past
        calm := (calm_ring notMine).append whole.calm.tail }

/-! ## Tasks -/

/-- A job goes on with the line or leaves it alone, and no move of the clock goes beyond one that
it is part of. -/
def undisturbed (callbacks : Callbacks κ η) : Admission β κ η := fun job rest session =>
  job.isWithin rest &&
    match job with
    | .work (.strike _) => true
    | .work (.request .cancelTimers) => false
    | job =>
        let next := ((clockwork callbacks).step job session).1.world
        next.typewriter = session.world.typewriter &&
          next.position.revealed = session.world.position.revealed &&
            next.position.textLength = session.world.position.textLength

private theorem undisturbed_work {task : Task κ η} (other : ∀ struck, task ≠ .strike struck)
    (admitted : undisturbed callbacks (.work task) rest session = true) :
    task ≠ .request .cancelTimers ∧
      (act callbacks task session).1.world.typewriter = session.world.typewriter ∧
      (act callbacks task session).1.world.position.revealed =
        session.world.position.revealed ∧
      (act callbacks task session).1.world.position.textLength =
        session.world.position.textLength := by
  unfold undisturbed at admitted
  split at admitted
  · next struck same => exact absurd (Job.work.inj same) (other struck)
  · simp at admitted
  · next cancel =>
      simp only [Job.isWithin, Bool.true_and, Bool.and_eq_true, decide_eq_true_eq] at admitted
      exact ⟨fun same => cancel (congrArg Job.work same), admitted.1.1, admitted.1.2, admitted.2⟩

/-- What does not go on with the line leaves it alone. -/
theorem Timed.leaves {task : Task κ η} (timed : Timed (.work task :: rest) session)
    (admitted : undisturbed callbacks (.work task) rest session = true)
    (other : task.isTyping session.world.typewriter.generation = false) :
    session.Leaves ((clockwork callbacks).step (.work task) session) := by
  by_cases strikes : ∃ struck, task = .strike struck
  · obtain ⟨struck, rfl⟩ := strikes
    have stale : struck ≠ session.world.typewriter.generation := by
      simpa [Task.isTyping] using other
    have same : (clockwork callbacks).step (.work (.strike struck)) session = (session, []) :=
      congrArg jobs (strike_stale stale)
    rw [same]
    exact ⟨⟨rfl, fun _ => rfl, rfl, rfl, by simp⟩, .refl, rfl, rfl, rfl⟩
  · have silent : ∀ generation, task.isTyping generation = false := by
      intro generation
      cases task with
      | strike struck => exact absurd ⟨struck, rfl⟩ strikes
      | emit event => exact other
      | request | reply | replyCount | deliver | script | resume | enterScene | enterDialogue
      | typeLine | beginTransition | awaitCommit | commit | awaitClear | clear
      | forgetListeners => rfl
    obtain ⟨cancel, typewriter, revealed, length⟩ :=
      undisturbed_work (fun struck same => strikes ⟨struck, same⟩) admitted
    -- closing an open session would make an end of the line, and closing a closed one does nothing
    have tends : session.timeline.Tends (act callbacks task session).1.timeline := by
      by_cases close : task = .request .close
      · subst close
        cases closed : session.world.closed with
        | true =>
            show session.timeline.Tends (Session.close session).1.timeline
            rw [close_closed closed]
            exact .refl
        | false =>
            have later := generation_close closed timed.playing
            exact absurd (congrArg Typewriter.generation typewriter) (by
              show (Session.close session).1.world.typewriter.generation ≠ _
              omega)
      · exact tends_act callbacks close cancel session
    cases treats_step callbacks silent (fun _ => timed.playing) cancel with
    | spares spares => exact ⟨spares, tends, revealed, length, targets_act callbacks task session⟩
    | ends changed _ => exact absurd typewriter changed

/-- The line shows a character more, and waits for the next one or shows as a whole. -/
theorem Strikes.step (strikes : Strikes line before count number rest session)
    (isOpen : session.timeline.closed = false) (takesTime : 0 < line.interval) :
    Beats line before
      (((clockwork callbacks).step (.work (.strike line.generation)) session).2 ++ rest)
      ((clockwork callbacks).step (.work (.strike line.generation)) session).1 := by
  have unfinished := strikes.unfinished
  show Beats line before ((strike session line.generation).2.map .work ++ rest)
    (strike session line.generation).1
  by_cases last : count + 1 = line.text.length
  · rw [strike, strikes.typewriter, Typewriter.strike_line_last last]
    refine .completes session.world.position.scene session.world.position.dialogue
      { strikes with
        typewriter := rfl, revealed := strikes.length, since := ?_ } ?_
    · exact Int.le_of_eq (last ▸ strikes.now.symm)
    · exact last ▸ strikes.now
  · have more : count + 1 < line.text.length := by omega
    have early : session.timeline.now < line.due (count + 1 + 1) := by
      rw [strikes.now, line.due_succ (count + 1)]
      omega
    rw [strike, strikes.typewriter, Typewriter.strike_line_next more isOpen takesTime strikes.now]
    refine .waits (?_ : Waits line before (count + 1) session.timeline.issued rest _)
    exact { strikes with
      typewriter := rfl
      unfinished := more
      revealed := rfl
      strikes := filter_insertTimer_of_none (by simp [Line.timer, Alarm.reveals]) strikes.strikes
      since := Int.le_of_eq strikes.now.symm
      «until» := Int.le_of_lt early
      reached := fun now => absurd now (Int.ne_of_lt early) }

/-- That the line is complete is told. -/
theorem Whole.emit {scene dialogue : Int}
    (whole : Whole line before rest session)
    (now : session.timeline.now = line.due line.text.length) :
    let event := Playback.Event.typingComplete scene dialogue false
    Whole line ((line.due line.text.length, event) :: before)
      (((clockwork callbacks).step (.work (.emit event)) session).2 ++ rest)
      ((clockwork callbacks).step (.work (.emit event)) session).1 := by
  refine { whole with
    completions := ?_
    calm := Calm.append (fun job member => ?_) whole.calm }
  · rw [← now, ← whole.completions]
    rfl
  · obtain ⟨task, listed, rfl⟩ := List.mem_map.mp member
    obtain ⟨listener, _, rfl⟩ := List.mem_map.mp listed
    rfl

private theorem isWithin_of_undisturbed (admitted : undisturbed callbacks job rest session = true) :
    job.isWithin rest = true := by
  simp only [undisturbed, Bool.and_eq_true] at admitted
  exact admitted.1

/-- A line that is left alone goes on job by job. -/
theorem Beats.step (beats : Beats line before (job :: rest) session)
    (timed : Timed (job :: rest) session) (takesTime : 0 < line.interval)
    (admitted : undisturbed callbacks job rest session = true) :
    Timed (((clockwork callbacks).step job session).2 ++ rest)
        ((clockwork callbacks).step job session).1 ∧
      Beats line before (((clockwork callbacks).step job session).2 ++ rest)
        ((clockwork callbacks).step job session).1 := by
  have within := isWithin_of_undisturbed admitted
  cases beats with
  | strikes strikes =>
      have strike : Task.isMove (Task.strike line.generation : Task κ η) = true := rfl
      have continues := continues_step callbacks strike session
      exact ⟨timed.tends continues.timeline (targets_act callbacks (.strike _) session)
        continues.stopped, strikes.step timed.orderly.isOpen takesTime⟩
  | completes scene dialogue whole now =>
      exact ⟨timed.tends .refl (targets_act callbacks (.emit _) session) rfl,
        .rests scene dialogue (whole.emit now)⟩
  | waits waits =>
      cases job with
      | work task =>
          have leaves := timed.leaves admitted (by
            rw [waits.typewriter]
            exact waits.calm _ List.mem_cons_self)
          exact ⟨timed.tends leaves.timeline leaves.targets leaves.stopped,
            .waits (waits.leaves leaves)⟩
      | update | drain | drained | flush | flushed =>
          exact ⟨timed.clock (by simp) within, waits.clock timed (by simp)⟩
  | rests scene dialogue whole =>
      cases job with
      | work task =>
          have leaves := timed.leaves admitted (by
            rw [whole.typewriter]
            exact whole.calm _ List.mem_cons_self)
          exact ⟨timed.tends leaves.timeline leaves.targets leaves.stopped,
            .rests scene dialogue (whole.leaves leaves)⟩
      | update | drain | drained | flush | flushed =>
          exact ⟨timed.clock (by simp) within, .rests scene dialogue (whole.clock timed (by simp))⟩

end VisualNovel.Playback.Session
