import VisualNovel.Proofs.Agenda.Endlessness
import VisualNovel.Proofs.Clock.Discipline

/-!
# Flushing

A flush moves the clock from timer to timer and looks at its limit before each move.
A move lets everything go off that is due at one instant, also what callbacks set
for that instant meanwhile. So the limit holds for the instants before the last, and
a flush comes to its end unless callbacks go on for ever at one instant.
-/

set_option autoImplicit false

namespace VisualNovel.Clock.Schedule

open VisualNovel.Agenda

variable {κ η : Type} {callbacks : κ → ScheduleScript κ η} {schedule before after : Schedule κ η}
  {seen : List Int} {limit time reading : Int} {count : Nat} {job : Job (ScheduleTask κ η)}
  {jobs rest : List (Job (ScheduleTask κ η))}

def starting : Job (ScheduleTask κ η) → Schedule κ η → List Int
  | .drain time _, schedule =>
      (schedule.timeline.takeDue? time).toList.map fun (_, timeline) => timeline.now
  | _, _ => []

def flushReadings (callbacks : κ → ScheduleScript κ η) (limit : Int) (before : Schedule κ η)
    (budget : Nat) : List Int :=
  watch starting (clockwork callbacks).step budget [.work (.request (.flush limit))] before

/-- A callback starts only while fewer than a limit have started at other readings of the clock. -/
def Rationed (limit : Int) (readings : List Int) : Prop :=
  ∀ earlier reading, earlier ++ [reading] <+: readings →
    ((earlier.filter (· ≠ reading)).length : Int) < limit

theorem Rationed.concat (rationed : Rationed limit seen)
    (few : ((seen.filter (· ≠ reading)).length : Int) < limit) :
    Rationed limit (seen ++ [reading]) := by
  intro earlier other first
  rcases first_of_concat first with ⟨rfl, rfl⟩ | first
  · exact few
  · exact rationed earlier other first

/-! ## The jobs of a flush -/

def Timed (time : Int) (schedule : Schedule κ η) : Prop :=
  ∀ timer timeline, schedule.timeline.takeDue? time = some (timer, timeline) → timeline.now = time

private theorem timed_of_now (now : schedule.timeline.now = time) : Timed time schedule := by
  intro timer timeline taken
  obtain ⟨_, _, due, rfl⟩ := Timeline.takeDue?_eq_some.mp taken
  exact (Int.max_eq_left (now ▸ due)).trans now

private theorem timed_of_nextDue {due : Int} (next : schedule.timeline.nextDue? = some due) :
    Timed (max schedule.timeline.now due) schedule := by
  intro timer timeline taken
  obtain ⟨_, waiting, _, rfl⟩ := Timeline.takeDue?_eq_some.mp taken
  have same : timer.due = due := by simpa [Timeline.nextDue?, waiting] using next
  rw [← same]

/-- Where a callback is at work, no other starts, and it leaves the clock alone. -/
theorem Busy.step (callbacks : κ → ScheduleScript κ η) (busy : Busy time count (job :: rest))
    (isOpen : schedule.timeline.closed = false) :
    starting job schedule = [] ∧
      ((clockwork callbacks).step job schedule).1.timeline.closed = false ∧
      ((clockwork callbacks).step job schedule).1.timeline.now = schedule.timeline.now ∧
      (Busy time count (((clockwork callbacks).step job schedule).2 ++ rest) ∨
        ((clockwork callbacks).step job schedule).2 ++ rest = [.drain time count]) := by
  cases busy with
  | drained =>
      rw [Clockwork.step_drained isOpen]
      exact ⟨rfl, isOpen, rfl, .inr rfl⟩
  | @script timer rest asks =>
      simp only [Clockwork.step, clockwork, act]
      cases pauses : rest.proceed schedule.world.notes with
      | mk pause notes =>
          cases pause with
          | done => exact ⟨rfl, isOpen, rfl, .inl .drained⟩
          | failed => exact ⟨rfl, isOpen, rfl, .inl .drained⟩
          | asks made next =>
              obtain ⟨ordinary, more⟩ := asks.proceed pauses
              exact ⟨rfl, isOpen, rfl, .inl (.request ordinary more)⟩
  | @request timer made next ordinary asks =>
      obtain ⟨done, closed, now⟩ := begin_ordinary schedule ordinary
      have begun : (clockwork callbacks).step (.work (.request made)) schedule =
          ((schedule.begin made).1, []) := Prod.ext rfl done
      rw [begun]
      exact ⟨rfl, closed.trans isOpen, now, .inl (.resume asks)⟩
  | resume asks => exact ⟨rfl, isOpen, rfl, .inl (.script (asks _))⟩

/-- Either a flush has reached its limit, or it leaves nothing unless the schedule is closed. -/
def Spent (limit : Int) (seen : List Int) (schedule : Schedule κ η) : Prop :=
  (seen.length : Int) < limit → schedule.timeline.closed = false → schedule.timeline.pending = []

/-- What is left of a flush in which callbacks have started at certain readings of the clock. -/
inductive Flushing (limit : Int) (seen : List Int) (schedule : Schedule κ η) :
    List (Job (ScheduleTask κ η)) → Prop where
  | asked : seen = [] → Flushing limit seen schedule [.work (.request (.flush limit))]
  | looks : Flushing limit seen schedule [.flush limit seen.length, .work .count]
  | begins {due : Int} : schedule.timeline.closed = false → (seen.length : Int) < limit →
      schedule.timeline.nextDue? = some due →
      Flushing limit seen schedule [.update due, .flushed limit seen.length, .work .count]
  | drains {past : List Int} {time : Int} {count : Nat} : schedule.timeline.closed = false →
      (past.length : Int) < limit → seen = past ++ List.replicate count time →
      Timed time schedule →
      Flushing limit seen schedule
        [.drain time count, .flushed limit past.length, .work .count]
  | works {past : List Int} {time : Int} {count : Nat} {jobs : List (Job (ScheduleTask κ η))} :
      schedule.timeline.closed = false → (past.length : Int) < limit →
      seen = past ++ List.replicate count time → schedule.timeline.now = time →
      Busy time count jobs →
      Flushing limit seen schedule (jobs ++ [.flushed limit past.length, .work .count])
  | moved {past : Nat} : seen.length = past + schedule.ran →
      Flushing limit seen schedule [.flushed limit past, .work .count]
  | counts : schedule.ran = seen.length → Spent limit seen schedule →
      Flushing limit seen schedule [.work .count]
  | ended : schedule.world.answer = .count seen.length → Spent limit seen schedule →
      Flushing limit seen schedule []

/-- A flush stops at its limit, on a closed schedule and when nothing is left, or it makes a move
to the next timer. -/
theorem step_flush_cases (callbacks : κ → ScheduleScript κ η) (schedule : Schedule κ η)
    (limit : Int) (ran : Nat) :
    ((clockwork callbacks).step (.flush limit ran) schedule = ({ schedule with ran }, []) ∧
      ((ran : Int) < limit → schedule.timeline.closed = false → schedule.timeline.pending = [])) ∨
    ∃ due, schedule.timeline.closed = false ∧ (ran : Int) < limit ∧
      schedule.timeline.nextDue? = some due ∧
      (clockwork callbacks).step (.flush limit ran) schedule =
        (schedule, [.update due, .flushed limit ran]) := by
  by_cases enough : limit ≤ ran
  · exact .inl ⟨Clockwork.step_flush_enough enough, fun few => by omega⟩
  · cases closed : schedule.timeline.closed with
    | true => exact .inl ⟨by simp [Clockwork.step, closed], nofun⟩
    | false =>
        cases next : schedule.timeline.nextDue? with
        | none =>
            refine .inl ⟨Clockwork.step_flush_idle next, fun _ _ => ?_⟩
            simpa [Timeline.nextDue?] using next
        | some due =>
            exact .inr ⟨due, rfl, Int.not_le.mp enough, rfl,
              Clockwork.step_flush_more closed enough next⟩

/-- A move of the clock makes the next timer go off, or has come to its end. -/
theorem flushing_step_drain {past : List Int} (ordinary : Ordinary callbacks)
    (rationed : Rationed limit seen) (isOpen : schedule.timeline.closed = false)
    (few : (past.length : Int) < limit) (split : seen = past ++ List.replicate count time)
    (timed : Timed time schedule) :
    Rationed limit (seen ++ starting (.drain time count) schedule) ∧
      Flushing limit (seen ++ starting (.drain time count) schedule)
        ((clockwork callbacks).step (.drain time count) schedule).1
        (((clockwork callbacks).step (.drain time count) schedule).2 ++
          [.flushed limit past.length, .work .count]) := by
  simp only [starting]
  cases taken : schedule.timeline.takeDue? time with
  | none =>
      rw [Clockwork.step_drain_idle taken, Option.toList_none, List.map_nil, List.append_nil]
      exact ⟨rationed, .moved (by simp [split, Moment.settle])⟩
  | some found =>
      obtain ⟨timer, timeline⟩ := found
      have now : timeline.now = time := timed timer timeline taken
      have stillOpen : timeline.closed = false := by
        obtain ⟨_, _, _, rfl⟩ := Timeline.takeDue?_eq_some.mp taken
        exact isOpen
      rw [Clockwork.step_drain_fire taken, Option.toList_some, List.map_singleton, now]
      constructor
      · refine rationed.concat ?_
        have others : ((past ++ List.replicate count time).filter (· ≠ time)).length ≤
            past.length := by
          have none : (List.replicate count time).filter (· ≠ time) = [] := by simp
          rw [List.filter_append, none, List.append_nil]
          exact List.length_filter_le _ _
        rw [split]
        omega
      · refine .works stillOpen few ?_ now (.script (ordinary timer.payload))
        rw [split, List.append_assoc, List.replicate_succ']

/-- A step of a flush lets a callback start only within the limit, and leaves the rest of a flush.
-/
theorem Flushing.step (ordinary : Ordinary callbacks) (rationed : Rationed limit seen)
    (flushing : Flushing limit seen schedule (job :: rest)) :
    Rationed limit (seen ++ starting job schedule) ∧
      Flushing limit (seen ++ starting job schedule)
        ((clockwork callbacks).step job schedule).1
        (((clockwork callbacks).step job schedule).2 ++ rest) := by
  generalize tasks : job :: rest = jobs at flushing
  cases flushing with
  | drains isOpen few split timed =>
      cases tasks
      exact flushing_step_drain ordinary rationed isOpen few split timed
  | @works _ _ _ jobs isOpen few split now busy =>
      cases jobs with
      | nil => nomatch busy
      | cons first more =>
          rw [List.cons_append] at tasks
          obtain ⟨rfl, rfl⟩ := List.cons.inj tasks
          obtain ⟨quiet, stillOpen, still, goesOn⟩ := busy.step callbacks isOpen
          rw [quiet, List.append_nil, ← List.append_assoc]
          refine ⟨rationed, ?_⟩
          rcases goesOn with busy | drains
          · exact .works stillOpen few split (still.trans now) busy
          · rw [drains]
            exact .drains stillOpen few split (timed_of_now (still.trans now))
  | asked none =>
      cases tasks
      subst none
      exact ⟨rationed, .looks⟩
  | looks =>
      cases tasks
      simp only [starting, List.append_nil]
      refine ⟨rationed, ?_⟩
      rcases step_flush_cases callbacks schedule limit seen.length with
        ⟨stops, spent⟩ | ⟨due, isOpen, few, next, moves⟩
      · rw [stops]
        exact .counts rfl spent
      · rw [moves]
        exact .begins isOpen few next
  | begins isOpen few next =>
      cases tasks
      rw [Clockwork.step_update isOpen]
      simp only [starting, List.append_nil]
      exact ⟨rationed, .drains isOpen few (by simp) (timed_of_nextDue next)⟩
  | moved counted =>
      cases tasks
      rw [Clockwork.step_flushed rfl, ← counted]
      simp only [starting, List.append_nil]
      exact ⟨rationed, .looks⟩
  | counts counted spent =>
      cases tasks
      simp only [starting, List.append_nil]
      exact ⟨rationed, .ended (congrArg _ counted) spent⟩
  | ended => cases tasks

/-- Whatever the budget, callbacks are rationed, and what a flush comes to is told by them. -/
theorem Flushing.run (ordinary : Ordinary callbacks) (rationed : Rationed limit seen)
    (flushing : Flushing limit seen schedule jobs) (budget : Nat) :
    Rationed limit (seen ++ watch starting (clockwork callbacks).step budget jobs schedule) ∧
      ∀ final, Agenda.run (clockwork callbacks).step budget jobs schedule = some final →
        Flushing limit (seen ++ watch starting (clockwork callbacks).step budget jobs schedule)
          final [] := by
  induction budget generalizing seen jobs schedule with
  | zero =>
      cases jobs with
      | nil =>
          rw [watch, List.append_nil]
          refine ⟨rationed, fun final finished => ?_⟩
          cases finished
          exact flushing
      | cons job rest =>
          rw [watch, List.append_nil]
          exact ⟨rationed, fun final finished => by simp [Agenda.run] at finished⟩
  | succ budget hypothesis =>
      cases jobs with
      | nil =>
          rw [watch, List.append_nil]
          refine ⟨rationed, fun final finished => ?_⟩
          cases finished
          exact flushing
      | cons job rest =>
          obtain ⟨rationedNext, next⟩ := flushing.step ordinary rationed
          rw [watch, ← List.append_assoc]
          exact hypothesis rationedNext next

theorem Flushing.told (flushing : Flushing limit seen schedule []) :
    schedule.world.answer = .count seen.length ∧ Spent limit seen schedule := by
  generalize none : ([] : List (Job (ScheduleTask κ η))) = jobs at flushing
  cases flushing with
  | ended answered spent => exact ⟨answered, spent⟩
  | works => simp at none
  | asked | looks | begins | drains | moved | counts => cases none

/-! ## Whether a flush ends -/

/-- The next timer goes off, its callback is worked off, and the move of the clock goes on. -/
theorem steps_fire {timer : Timer κ} {timeline : Timeline κ} (ordinary : Ordinary callbacks)
    (isOpen : schedule.timeline.closed = false) (timed : Timed time schedule)
    (taken : schedule.timeline.takeDue? time = some (timer, timeline)) (count : Nat) :
    ∃ spent middle, Steps (clockwork callbacks).step spent
        ((clockwork callbacks).step (.drain time count) schedule).2
        ((clockwork callbacks).step (.drain time count) schedule).1
        [.drain time (count + 1)] middle ∧
      middle.timeline.closed = false ∧ middle.timeline.now = time := by
  obtain ⟨_, middle, _, works, _, _, closed, now⟩ :=
    (Alike.refl { schedule with timeline }).works_script (ordinary timer.payload) timer.name
  obtain ⟨spent, finished, _⟩ := completes_iff.mp works
  have stillOpen : middle.timeline.closed = false := by
    obtain ⟨_, _, _, rfl⟩ := Timeline.takeDue?_eq_some.mp taken
    exact closed.trans isOpen
  have goesOn : Steps (clockwork callbacks).step 1 [.drained time (count + 1)] middle
      [.drain time (count + 1)] middle := by
    refine .cons ?_
    rw [Clockwork.step_drained stillOpen]
    exact .refl
  rw [Clockwork.step_drain_fire taken]
  exact ⟨_, middle, (steps_of_run finished).append goesOn, stillOpen,
    now.trans (timed timer timeline taken)⟩

/-- Where the callbacks that are due by a time do not come to an end, they go on there for ever. -/
theorem recurs_of_not_halts (ordinary : Ordinary callbacks)
    (isOpen : schedule.timeline.closed = false) (timed : Timed time schedule)
    (endless : ¬ Halts (clockwork callbacks).step [.drain time count] schedule)
    (rest : List (Job (ScheduleTask κ η))) :
    Recurs starting (clockwork callbacks).step time (.drain time count :: rest) schedule := by
  intro many
  induction many generalizing schedule count with
  | zero => exact ⟨0, Nat.zero_le _⟩
  | succ many hypothesis =>
      cases taken : schedule.timeline.takeDue? time with
      | none =>
          refine absurd ⟨1, schedule.settle time count, ?_⟩ endless
          rw [run_cons, Clockwork.step_drain_idle taken]
          rfl
      | some found =>
          obtain ⟨timer, timeline⟩ := found
          obtain ⟨_, middle, steps, stillOpen, now⟩ := steps_fire ordinary isOpen timed taken count
          have still : ¬ Halts (clockwork callbacks).step [.drain time (count + 1)] middle := by
            intro halts
            have whole : Steps (clockwork callbacks).step _ [.drain time count] schedule
                [.drain time (count + 1)] middle := .cons (by rwa [List.append_nil])
            exact endless (whole.halts_iff.mpr halts)
          obtain ⟨budget, enough⟩ := hypothesis stillOpen (timed_of_now now) still
          obtain ⟨spent, seen, goesOn⟩ := (steps.frame rest).goesOn starting
          refine ⟨spent + budget + 1, ?_⟩
          have first : starting (.drain time count) schedule = [time] := by
            rw [starting, taken]
            exact congrArg (fun now => [now]) (timed timer timeline taken)
          have last := (goesOn budget).1
          rw [List.singleton_append] at last
          rw [watch, first, last, List.count_append, List.count_append, List.count_singleton_self]
          omega

/-- A move of the clock to the next timer makes at least one go off. -/
theorem ran_pos_of_drain {due : Int} {budget : Nat} {middle : Schedule κ η}
    (ordinary : Ordinary callbacks) (isOpen : schedule.timeline.closed = false)
    (next : schedule.timeline.nextDue? = some due)
    (finished : Agenda.run (clockwork callbacks).step budget
      [.drain (max schedule.timeline.now due) 0] schedule = some middle) : 0 < middle.ran := by
  obtain ⟨seen, completes⟩ : ∃ seen, Completes (onTasks sighting) (clockwork callbacks).step
      [.drain (max schedule.timeline.now due) 0] schedule seen middle :=
    ⟨_, completes_iff.mpr ⟨budget, finished, rfl⟩⟩
  obtain ⟨ran, after, drains, rfl⟩ :=
    (Clockwork.completes_drain_iff ordinary.steady isOpen).mp completes
  cases drains with
  | idle idle =>
      have reached := Int.le_max_right schedule.timeline.now due
      obtain ⟨_, _, taken⟩ := Timeline.exists_takeDue next reached
      rw [idle] at taken
      contradiction
  | @fire _ _ _ _ _ _ _ ran =>
      show 0 < 0 + (ran + 1)
      omega

/-- A flush that comes to no end has callbacks start at one instant without end. -/
private theorem halts_or_recurs (ordinary : Ordinary callbacks) (limit : Int)
    (schedule : Schedule κ η)
    (ran : Nat) :
    Halts (clockwork callbacks).step [.flush limit ran, .work .count] schedule ∨
      ∃ reading, Recurs starting (clockwork callbacks).step reading
        [.flush limit ran, .work .count] schedule := by
  -- by induction on how many callbacks are left to the limit: each move of the clock takes some
  induction left : (limit - ran).toNat using Nat.strongRecOn generalizing schedule ran with
  | ind left hypothesis =>
      rcases step_flush_cases callbacks schedule limit ran with
        ⟨stops, _⟩ | ⟨due, isOpen, few, next, moves⟩
      · refine .inl ⟨2, reply { schedule with ran } (.count ran), ?_⟩
        rw [run_cons, stops]
        rfl
      · have begins : Steps (clockwork callbacks).step 2 [.flush limit ran, .work .count] schedule
            ([.drain (max schedule.timeline.now due) 0] ++ [.flushed limit ran, .work .count])
            schedule := by
          refine .cons ?_
          rw [moves]
          refine .cons ?_
          rw [Clockwork.step_update isOpen]
          exact .refl
        by_cases halts : Halts (clockwork callbacks).step
            [.drain (max schedule.timeline.now due) 0] schedule
        · obtain ⟨budget, middle, finished⟩ := halts
          have some_ran := ran_pos_of_drain ordinary isOpen next finished
          have looks : Steps (clockwork callbacks).step 1 [.flushed limit ran, .work .count] middle
              [.flush limit (ran + middle.ran), .work .count] middle := .cons .refl
          have steps := begins.trans (((steps_of_run finished).frame _).trans looks)
          exact (hypothesis _ (by omega) middle (ran + middle.ran) rfl).imp steps.halts_iff.mpr
            fun ⟨reading, recurs⟩ => ⟨reading, steps.recurs recurs⟩
        · have recurs := recurs_of_not_halts ordinary isOpen (timed_of_nextDue next) halts
            [.flushed limit ran, .work .count]
          exact .inr ⟨_, begins.recurs recurs⟩

private theorem steps_flush (callbacks : κ → ScheduleScript κ η) (limit : Int)
    (before : Schedule κ η) :
    Steps (clockwork callbacks).step 1 [.work (.request (.flush limit))] before
      [.flush limit 0, .work .count] before :=
  .cons .refl

/-- A flush ends where at no instant callbacks go on for ever. -/
theorem halts_of_count_le (ordinary : Ordinary callbacks)
    (bounded : ∀ reading, ∃ most, ∀ budget,
      (flushReadings callbacks limit before budget).count reading ≤ most) :
    Halts (clockwork callbacks).step [.work (.request (.flush limit))] before := by
  have begins := steps_flush callbacks limit before
  rcases halts_or_recurs ordinary limit before 0 with halts | ⟨reading, recurs⟩
  · exact begins.halts_iff.mpr halts
  · obtain ⟨most, bound⟩ := bounded reading
    obtain ⟨budget, enough⟩ := begins.recurs recurs (most + 1)
    exact absurd (Nat.le_trans enough (bound budget)) (Nat.not_succ_le_self most)

theorem flushing_run (ordinary : Ordinary callbacks) (limit : Int) (before : Schedule κ η)
    (budget : Nat) :
    Rationed limit (flushReadings callbacks limit before budget) ∧
      ∀ final, Agenda.run (clockwork callbacks).step budget [.work (.request (.flush limit))]
          before = some final →
        final.world.answer = .count (flushReadings callbacks limit before budget).length ∧
          Spent limit (flushReadings callbacks limit before budget) final := by
  have none : Rationed limit [] := fun earlier reading first => by simp at first
  have asked : Flushing limit [] before [.work (.request (.flush limit))] := .asked rfl
  obtain ⟨rationed, ends⟩ := asked.run ordinary none budget
  rw [List.nil_append] at rationed ends
  exact ⟨rationed, fun final finished => (ends final finished).told⟩

/-- Where each callback starts at another reading of the clock, the limit holds for all of them. -/
theorem Rationed.length_le (rationed : Rationed limit seen) (distinct : seen.Nodup) :
    (seen.length : Int) ≤ max limit 0 := by
  rcases List.eq_nil_or_concat seen with rfl | ⟨earlier, reading, rfl⟩
  · exact Int.le_max_right _ _
  · rw [List.concat_eq_append] at *
    have few := rationed earlier reading List.prefix_rfl
    have others : earlier.filter (· ≠ reading) = earlier := by
      refine List.filter_eq_self.mpr fun other member => ?_
      have apart := (List.nodup_append.mp distinct).2.2 other member reading (by simp)
      simpa using apart
    rw [others] at few
    rw [List.length_append, List.length_singleton]
    omega

/-- A flush lets a callback start only while fewer than its limit have started at other instants,
and tells how many have; if they are fewer, nothing is left pending. It ends unless callbacks go on
for ever at one instant. Where no two start at the same instant it ends within its limit. -/
theorem flush_limited_by_instants (ordinary : Ordinary callbacks) (before : Schedule κ η)
    (limit : Int) :
    (∀ budget, Rationed limit (flushReadings callbacks limit before budget)) ∧
    (∀ budget answer after, perform? callbacks budget (.flush limit) before = some (answer, after) →
      answer = .count (flushReadings callbacks limit before budget).length ∧
        Spent limit (flushReadings callbacks limit before budget) after) ∧
    ((∃ budget answer after, perform? callbacks budget (.flush limit) before =
        some (answer, after)) ↔
      ∀ reading, ∃ most, ∀ budget,
        (flushReadings callbacks limit before budget).count reading ≤ most) ∧
    ((∀ budget, (flushReadings callbacks limit before budget).Nodup) →
      ∃ budget ran after, perform? callbacks budget (.flush limit) before =
          some (.count ran, after) ∧ (ran : Int) ≤ max limit 0) := by
  have performed : ∀ {budget final}, Agenda.run (clockwork callbacks).step budget
      [.work (.request (.flush limit))] before = some final →
        perform? callbacks budget (.flush limit) before = some (final.world.answer, final) :=
    fun finished => congrArg (Option.map _) finished
  refine ⟨fun budget => (flushing_run ordinary limit before budget).1, ?_, ⟨?_, ?_⟩, ?_⟩
  · intro budget answer after performed
    obtain ⟨final, finished, same⟩ := Option.map_eq_some_iff.mp performed
    obtain ⟨rfl, rfl⟩ := Prod.mk.inj same
    exact (flushing_run ordinary limit before budget).2 final finished
  · rintro ⟨budget, answer, after, performed⟩ reading
    obtain ⟨final, finished, _⟩ := Option.map_eq_some_iff.mp performed
    exact Halts.count_le ⟨budget, final, finished⟩ starting reading
  · intro bounded
    obtain ⟨budget, final, finished⟩ := halts_of_count_le ordinary bounded
    exact ⟨budget, _, final, performed finished⟩
  · intro distinct
    obtain ⟨budget, final, finished⟩ := halts_of_count_le ordinary fun reading =>
      ⟨1, fun budget => List.nodup_iff_count.mp (distinct budget) reading⟩
    obtain ⟨rationed, told⟩ := flushing_run ordinary limit before budget
    have answered := (told final finished).1
    exact ⟨budget, _, final, answered ▸ performed finished,
      rationed.length_le (distinct budget)⟩

theorem flush_limited_by_instants_beats :
    Ordinary beats ∧ flushReadings beats 3 beating 60 = [3, 5, 7] ∧
      Rationed 3 [3, 5, 7] ∧ (∀ budget, (flushReadings beats 3 beating budget).Nodup) ∧
      ∃ budget ran after, perform? beats budget (.flush 3) beating = some (.count ran, after) ∧
        (ran : Int) ≤ max 3 0 := by
  obtain ⟨rationed, _, _, limited⟩ := flush_limited_by_instants beats_ordinary beating 3
  obtain ⟨final, finished⟩ : ∃ final, Agenda.run (clockwork beats).step 60
      [.work (.request (.flush 3))] beating = some final := ⟨_, rfl⟩
  have distinct : ∀ budget, (flushReadings beats 3 beating budget).Nodup := fun budget =>
    (watch_prefix_of_run finished budget).sublist.nodup (by decide : [(3 : Int), 5, 7].Nodup)
  exact ⟨beats_ordinary, rfl, rationed 60, distinct, limited distinct⟩

def echo : Bool → ScheduleScript Bool Unit
  | true => .ask (.later 0 "echo" true) fun _ => .done
  | false => .done

/-- A timer that is due by a time sets another. -/
structure Echoing (time : Int) (schedule : Schedule Bool Unit) : Prop where
  isOpen : schedule.timeline.closed = false
  past : schedule.timeline.now ≤ time
  waiting : ∃ timer, schedule.timeline.pending = [timer] ∧ timer.due ≤ time ∧
    timer.payload = true

theorem Echoing.returns {time : Int} {schedule : Schedule Bool Unit}
    (echoing : Echoing time schedule) (count : Nat)
    (rest : List (Job (ScheduleTask Bool Unit))) :
    ∃ next, Steps (clockwork echo).step 5
        (((clockwork echo).step (.drain time count) schedule).2 ++ rest)
        ((clockwork echo).step (.drain time count) schedule).1
        (.drain time (count + 1) :: rest) next ∧ Echoing time next := by
  obtain ⟨⟨now, issued, closed, pending, fired, cancelled⟩, ran, world⟩ := schedule
  obtain ⟨rfl, past, ⟨⟨due, number, label, cue⟩, rfl, reached, rfl⟩⟩ := echoing
  rw [Clockwork.step_drain_fire (Timeline.takeDue?_eq_some.mpr ⟨[], rfl, reached, rfl⟩)]
  have soon : max now due + max 0 0 ≤ time := by
    dsimp only at past reached
    omega
  exact ⟨_, .cons (.cons (.cons (.cons (.cons .refl)))), rfl, Int.max_le.mpr ⟨past, reached⟩,
    _, rfl, soon, rfl⟩

private theorem Echoing.not_halts {time : Int} {schedule : Schedule Bool Unit}
    (echoing : Echoing time schedule) (count : Nat)
    (rest : List (Job (ScheduleTask Bool Unit))) :
    ¬ Halts (clockwork echo).step (.drain time count :: rest) schedule := by
  refine not_halts_of_returns (fun tasks schedule =>
    ∃ time count rest, tasks = .drain time count :: rest ∧ Echoing time schedule) ?_
    ⟨time, count, rest, rfl, echoing⟩
  rintro _ schedule ⟨time, count, rest, rfl, echoing⟩
  obtain ⟨next, steps, more⟩ := echoing.returns count rest
  exact ⟨_, rest, rfl, 5, _, next, steps, time, count + 1, rest, rfl, more⟩

def paired : Schedule Bool Unit :=
  let set := ((new 0 () : Schedule Bool Unit).begin (.later 5 "first" false)).1
  (set.begin (.later 5 "second" false)).1

/-- A flush passes its limit at one instant, and goes on for ever at one. -/
theorem limit_passed_within_instant :
    (∃ after, perform? echo 20 (.flush 1) paired = some (.count 2, after)) ∧
      ¬ (2 : Int) ≤ max 1 0 ∧
      ∀ budget, perform? echo budget (.flush 1)
        ((new 0 () : Schedule Bool Unit).begin (.later 0 "echo" true)).1 = none := by
  refine ⟨⟨_, rfl⟩, by decide, fun budget => ?_⟩
  have begins : Steps (clockwork echo).step 3 [.work (.request (.flush 1))]
      ((new 0 () : Schedule Bool Unit).begin (.later 0 "echo" true)).1 (.drain 0 0 :: _) _ :=
    .cons (.cons (.cons .refl))
  have endless : Echoing 0 ((new 0 () : Schedule Bool Unit).begin (.later 0 "echo" true)).1 :=
    ⟨rfl, Int.le_refl 0, _, rfl, Int.le_refl 0, rfl⟩
  refine Option.map_eq_none_iff.mpr (Option.eq_none_iff_forall_ne_some.mpr fun final finished => ?_)
  exact endless.not_halts 0 _ (begins.halts_iff.mp ⟨budget, final, finished⟩)

end VisualNovel.Clock.Schedule
