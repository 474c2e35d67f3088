import VisualNovel.Playback.Typing
import VisualNovel.Proofs.Clock.Draining
import VisualNovel.Proofs.Playback.Typewriter

/-!
# A typewriter that ticks

A typewriter that has a timeline to itself is in the midst of a line, with one timer
for the next character, or it is idle and has none. Moving the clock on shows more of
the line, character by character, and tells each; after the last it tells that the
line is complete. All that was told of a line so far follows from where it stands.
-/

set_option autoImplicit false

namespace VisualNovel.Playback

open VisualNovel.Agenda VisualNovel.Clock

structure Notice where
  generation : Nat
  clock : Int
  signal : Signal
  deriving DecidableEq, Repr

namespace Line

def progress (line : Line) (count : Nat) : Notice :=
  ⟨line.generation, line.due count, .progress count⟩

def record (line : Line) (count : Nat) : List Notice :=
  (List.range' 1 count).map line.progress

def ending (line : Line) : Notice :=
  ⟨line.generation, line.due line.text.length, .complete false⟩

private theorem record_succ (line : Line) (count : Nat) :
    line.record (count + 1) = line.record count ++ [line.progress (count + 1)] := by
  simp [record, List.range'_concat, Nat.add_comm 1]

end Line

namespace Typing

def notices (typing : Typing) (generation : Nat) (signals : List Signal) : List Notice :=
  signals.map fun signal => ⟨generation, typing.timeline.now, signal⟩

@[simp] theorem signals_notices (typing : Typing) (generation : Nat) (signals : List Signal) :
    (typing.notices generation signals).map Notice.signal = signals := by
  simp [notices, Function.comp_def]

def telling (generation : Nat) (typing : Typing) : List Notice :=
  typing.notices generation (typing.world.typewriter.strike id generation typing.timeline).1

structure Idle (typing : Typing) : Prop where
  isOpen : typing.timeline.closed = false
  silent : typing.timeline.pending = []
  timer : typing.world.typewriter.timer = none
  complete : typing.world.typewriter.reveal.complete = true
  within : typing.world.typewriter.reveal.revealed ≤ typing.world.typewriter.reveal.total

/-- So many characters of a line show, and its timer is set for the next. -/
structure Busy (line : Line) (count : Nat) (typing : Typing) : Prop where
  isOpen : typing.timeline.closed = false
  takesTime : 0 < line.interval
  unfinished : count < line.text.length
  since : line.due count ≤ typing.timeline.now
  ahead : typing.timeline.now < line.due (count + 1)
  waits : ∃ number, typing.world.typewriter = line.typing count number ∧
    typing.timeline.pending = [line.timer id count number]

structure Finished (line : Line) (typing : Typing) : Prop where
  isOpen : typing.timeline.closed = false
  silent : typing.timeline.pending = []
  typed : typing.world.typewriter = line.typed
  reached : line.due line.text.length ≤ typing.timeline.now

/-- Where a line stands that was left to its timers, with all that was told of it. -/
inductive Stands (line : Line) : List Notice → Typing → Prop where
  | busy {count : Nat} {typing : Typing} :
      Busy line count typing → Stands line (line.record count) typing
  | finished {typing : Typing} :
      Finished line typing → Stands line (line.record line.text.length ++ [line.ending]) typing

variable {typing next after : Typing} {line : Line} {count ran : Nat} {time limit : Int}
  {record : List Notice}

theorem Finished.idle (finished : Finished line typing) : Idle typing where
  isOpen := finished.isOpen
  silent := finished.silent
  timer := by rw [finished.typed]; rfl
  complete := by rw [finished.typed]; rfl
  within := by rw [finished.typed]; exact Nat.le_refl _

theorem idle_new (now interval : Int) : Idle (Typing.new now interval) :=
  ⟨rfl, rfl, rfl, rfl, Nat.le_refl _⟩

/-! ## Timers that go off -/

theorem step_work (generation : Nat) (typing : Typing) :
    clockwork.step (.work generation) typing =
      (typing.put (typing.world.typewriter.strike id generation typing.timeline).1
        (typing.world.typewriter.strike id generation typing.timeline).2, []) :=
  rfl

private theorem completes_strike (typing : Typing) (generation : Nat) :
    Completes (onTasks telling) clockwork.step [.work generation] typing
      (typing.telling generation)
      (typing.put (typing.world.typewriter.strike id generation typing.timeline).1
        (typing.world.typewriter.strike id generation typing.timeline).2) := by
  rw [← List.append_nil (typing.telling generation)]
  exact .of_step (step_work generation typing) .nil

/-- What comes of a line when its timer has gone off and a character more is to show. -/
theorem stands_strike {number : Nat} (isOpen : typing.timeline.closed = false)
    (idle : typing.timeline.pending = []) (now : typing.timeline.now = line.due (count + 1))
    (takesTime : 0 < line.interval) (unfinished : count < line.text.length)
    (typewriter : typing.world.typewriter = line.typing count number) :
    Stands line (line.record count ++ typing.telling line.generation)
      (typing.put (typing.world.typewriter.strike id line.generation typing.timeline).1
        (typing.world.typewriter.strike id line.generation typing.timeline).2) := by
  have told (signals : List Signal) : typing.notices line.generation signals =
      signals.map fun signal => ⟨line.generation, line.due (count + 1), signal⟩ := by
    rw [notices, now]
  rw [telling, typewriter, told]
  by_cases last : count + 1 = line.text.length
  · rw [Typewriter.strike_line_last last]
    have whole : line.record count ++
          [line.progress (count + 1), ⟨line.generation, line.due (count + 1), .complete false⟩] =
        line.record line.text.length ++ [line.ending] := by
      rw [← last, Line.record_succ, List.append_assoc, Line.ending, last]
      rfl
    exact whole ▸ .finished ⟨isOpen, idle, rfl, last ▸ Int.le_of_eq now.symm⟩
  · have more : count + 1 < line.text.length := by omega
    rw [Typewriter.strike_line_next more isOpen takesTime now, idle]
    have later := Line.due_succ line (count + 1)
    exact Line.record_succ line count ▸ .busy
      ⟨isOpen, takesTime, more, Int.le_of_eq now.symm, by show typing.timeline.now < _; omega,
        typing.timeline.issued, rfl, rfl⟩

/-- The timer of a line goes off when it is due. -/
theorem Busy.fires (busy : Busy line count typing) (due : line.due (count + 1) ≤ time) :
    ∃ timer timeline told next, typing.timeline.takeDue? time = some (timer, timeline) ∧
      Completes (onTasks telling) clockwork.step ((clockwork.start timer).map .work)
        { typing with timeline } told next ∧
      Stands line (line.record count ++ told) next ∧
      next.timeline.now = line.due (count + 1) := by
  obtain ⟨number, typewriter, pending⟩ := busy.waits
  obtain ⟨timeline, taken, isOpen, idle, now⟩ : ∃ timeline,
      typing.timeline.takeDue? time = some (line.timer id count number, timeline) ∧
        timeline.closed = false ∧ timeline.pending = [] ∧ timeline.now = line.due (count + 1) :=
    ⟨_, Timeline.takeDue?_eq_some.mpr ⟨[], pending, due, rfl⟩, busy.isOpen, rfl,
      Int.max_eq_right (Int.le_of_lt busy.ahead)⟩
  refine ⟨_, timeline, _, _, taken, completes_strike { typing with timeline } line.generation,
    stands_strike isOpen idle now busy.takesTime busy.unfinished typewriter, ?_⟩
  exact (Typewriter.strike_now id _ timeline line.generation).trans now

/-! ## Moves of the clock -/

theorem steady : clockwork.Steady telling := by
  intro timer typing final told completes
  obtain ⟨_, same⟩ := completes.unique (completes_strike typing timer.payload)
  rw [same]
  exact ⟨Typewriter.strike_closed .., Typewriter.strike_now ..⟩

theorem Idle.takeDue (idle : Idle typing) (time : Int) :
    typing.timeline.takeDue? time = none := by
  simp [Timeline.takeDue?, idle.silent]

theorem Busy.takeDue (busy : Busy line count typing) (early : time < line.due (count + 1)) :
    typing.timeline.takeDue? time = none := by
  obtain ⟨number, _, pending⟩ := busy.waits
  refine Timeline.takeDue?_eq_none.mpr fun timer first => ?_
  rw [pending] at first
  obtain rfl := Option.some.inj first
  exact early

theorem Finished.settle (finished : Finished line typing) (past : typing.timeline.now ≤ time)
    (ran : Nat) : Finished line (typing.settle time ran) :=
  ⟨finished.isOpen, finished.silent, finished.typed, Int.le_trans finished.reached past⟩

theorem Busy.settle (busy : Busy line count typing) (past : typing.timeline.now ≤ time)
    (early : time < line.due (count + 1)) (ran : Nat) : Busy line count (typing.settle time ran) :=
  ⟨busy.isOpen, busy.takesTime, busy.unfinished, Int.le_trans busy.since past, early, busy.waits⟩

theorem Idle.settle (idle : Idle typing) (time : Int) (ran : Nat) :
    Idle (typing.settle time ran) :=
  ⟨idle.isOpen, idle.silent, idle.timer, idle.complete, idle.within⟩

theorem Stands.isOpen (stands : Stands line record typing) : typing.timeline.closed = false := by
  cases stands with
  | busy busy => exact busy.isOpen
  | finished finished => exact finished.isOpen

/-- Moving the clock on shows more of a line as its timers go off, and tells it. -/
theorem Stands.drains (stands : Stands line record typing)
    (past : typing.timeline.now ≤ time) :
    ∃ told ran after, clockwork.Drains telling time typing told ran after ∧
      Stands line (record ++ told) after := by
  -- by induction on the time that the line has left, of which every timer takes some
  induction left : (line.due line.text.length - typing.timeline.now).toNat
    using Nat.strongRecOn generalizing record typing with
  | ind left hypothesis =>
      cases stands with
      | finished finished =>
          refine ⟨[], 0, _, .idle (finished.idle.takeDue time), ?_⟩
          rw [List.append_nil]
          exact .finished (finished.settle past _)
      | @busy count _ busy =>
          by_cases due : line.due (count + 1) ≤ time
          · obtain ⟨timer, timeline, told, next, taken, worked, stands, now⟩ := busy.fires due
            have soon : line.due (count + 1) ≤ line.due line.text.length :=
              Line.due_le_due busy.takesTime busy.unfinished
            have ahead := busy.ahead
            obtain ⟨later, ran, after, drains, stands⟩ :=
              hypothesis _ (by omega) stands (now ▸ due) rfl
            exact ⟨_, _, after, .fire taken worked drains, List.append_assoc .. ▸ stands⟩
          · have early := Int.not_le.mp due
            refine ⟨[], 0, _, .idle (busy.takeDue early), ?_⟩
            rw [List.append_nil]
            exact .busy (busy.settle past early _)

theorem Stands.counts (stands : Stands line record typing) (ran : Nat) :
    Stands line record { typing with ran } := by
  cases stands with
  | busy busy =>
      exact .busy ⟨busy.isOpen, busy.takesTime, busy.unfinished, busy.since, busy.ahead, busy.waits⟩
  | finished finished =>
      exact .finished ⟨finished.isOpen, finished.silent, finished.typed, finished.reached⟩

theorem Stands.updates (stands : Stands line record typing) (time : Int) :
    ∃ told after, Completes (onTasks telling) clockwork.step [.update time] typing told after ∧
      Stands line (record ++ told) after ∧
      after.timeline.now = max typing.timeline.now time := by
  obtain ⟨told, ran, after, drains, standsAfter⟩ :=
    stands.drains (Int.le_max_left typing.timeline.now time)
  have done := drains.completes steady stands.isOpen 0
  have settled : after.settle (max typing.timeline.now time) (0 + ran) =
      { after with ran := 0 + ran } := by
    rw [Moment.settle, ← drains.now]
  rw [settled] at done
  refine ⟨told, _, .of_step (Clockwork.step_update stands.isOpen) done, standsAfter.counts _,
    drains.now⟩

theorem completes_flush_idle (enough : limit ≤ ran ∨ typing.timeline.pending = []) :
    Completes (onTasks telling) clockwork.step [.flush limit ran] typing []
      { typing with ran } := by
  have done : clockwork.step (.flush limit ran) typing = ({ typing with ran }, []) := by
    rcases enough with enough | idle
    · exact Clockwork.step_flush_enough enough
    · exact Clockwork.step_flush_idle (by simp [Timeline.nextDue?, idle])
  exact .of_step done .nil

/-- A flush comes to its end, and the line goes on in time. -/
theorem Stands.flushes (stands : Stands line record typing) (limit : Int) (ran : Nat) :
    ∃ told after, Completes (onTasks telling) clockwork.step [.flush limit ran] typing told after ∧
      Stands line (record ++ told) after := by
  induction left : (line.due line.text.length - typing.timeline.now).toNat
    using Nat.strongRecOn generalizing record typing ran with
  | ind left hypothesis =>
      by_cases enough : limit ≤ ran
      · exact ⟨[], _, completes_flush_idle (.inl enough),
          (List.append_nil record).symm ▸ stands.counts ran⟩
      · cases stands with
        | finished finished =>
            exact ⟨[], _, completes_flush_idle (.inr finished.silent),
              (List.append_nil _).symm ▸ (Stands.finished finished).counts ran⟩
        | @busy count _ busy =>
            obtain ⟨number, _, pending⟩ := busy.waits
            have next : typing.timeline.nextDue? = some (line.due (count + 1)) := by
              simp [Timeline.nextDue?, pending, Line.timer]
            obtain ⟨told, middle, updates, stands, now⟩ :=
              (Stands.busy busy).updates (line.due (count + 1))
            have soon : line.due (count + 1) ≤ line.due line.text.length :=
              Line.due_le_due busy.takesTime busy.unfinished
            have ahead := busy.ahead
            obtain ⟨later, after, flushes, stands⟩ :=
              hypothesis _ (by omega) stands (ran + middle.ran) rfl
            have goesOn : Completes (onTasks telling) clockwork.step [.flushed limit ran] middle
                later after :=
              .of_step (Clockwork.step_flushed rfl) flushes
            refine ⟨_, after, .of_step (Clockwork.step_flush_more busy.isOpen enough next)
              (updates.append goesOn), ?_⟩
            simpa only [onTasks, List.nil_append, List.append_assoc] using stands

theorem Idle.updates (idle : Idle typing) (time : Int) :
    ∃ after, Completes (onTasks telling) clockwork.step [.update time] typing [] after ∧
      after.world = typing.world ∧ Idle after := by
  have drains : clockwork.Drains telling (max typing.timeline.now time) typing [] 0 _ :=
    .idle (idle.takeDue _)
  exact ⟨_, .of_step (Clockwork.step_update idle.isOpen) (drains.completes steady idle.isOpen 0),
    rfl, (idle.settle _ _).settle _ _⟩

theorem Idle.flushes (idle : Idle typing) (limit : Int) :
    ∃ after, Completes (onTasks telling) clockwork.step [.flush limit 0] typing [] after ∧
      after.world = typing.world ∧ Idle after :=
  ⟨_, completes_flush_idle (.inr idle.silent), rfl,
    ⟨idle.isOpen, idle.silent, idle.timer, idle.complete, idle.within⟩⟩

end Typing

end VisualNovel.Playback
