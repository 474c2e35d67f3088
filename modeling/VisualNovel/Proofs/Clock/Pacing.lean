import VisualNovel.Clock.Schedule
import VisualNovel.Proofs.Clock.Draining

/-!
# Schedules at any frame rate

Callbacks that set and cancel timers, read the clock and fail find the same
whatever steps the clock is moved in: one move to a time is as good as a move to a
sooner time followed by another.
-/

set_option autoImplicit false

namespace VisualNovel.Clock

open VisualNovel.Agenda

variable {κ η : Type}

/-- An operation that neither moves the clock of a schedule nor closes it. -/
def ScheduleRequest.Ordinary : ScheduleRequest κ → Prop
  | .update _ | .flush _ | .close => False
  | _ => True

namespace Schedule

/-- Schedules that differ at most in the last answer and in how many timers the last move of the
clock made go off. -/
structure Alike (first second : Schedule κ η) : Prop where
  timeline : first.timeline = second.timeline
  notes : first.world.notes = second.world.notes
  failures : first.world.failures = second.world.failures

/-- What is seen when a callback is taken up, at first or after an answer: the name of its timer
and the reading of the clock. -/
def sighting : ScheduleTask κ η → Schedule κ η → List (String × Int)
  | .script timer _, schedule => [(timer, schedule.timeline.now)]
  | _, _ => []

def Performs (callbacks : κ → ScheduleScript κ η) (before : Schedule κ η)
    (made : ScheduleRequest κ) (sights : List (String × Int)) (answer : ScheduleAnswer)
    (after : Schedule κ η) : Prop :=
  ∃ budget, perform? callbacks budget made before = some (answer, after) ∧
    watch (onTasks sighting) (clockwork callbacks).step budget [.work (.request made)] before =
      sights

abbrev Works (callbacks : κ → ScheduleScript κ η) (jobs : List (Job (ScheduleTask κ η)))
    (before : Schedule κ η) (sights : List (String × Int)) (after : Schedule κ η) : Prop :=
  Completes (onTasks sighting) (clockwork callbacks).step jobs before sights after

variable {callbacks : κ → ScheduleScript κ η} {first second before after : Schedule κ η}
variable {sights : List (String × Int)}

theorem Alike.refl (schedule : Schedule κ η) : schedule.Alike schedule :=
  ⟨rfl, rfl, rfl⟩

theorem Alike.symm (alike : first.Alike second) : second.Alike first :=
  ⟨alike.timeline.symm, alike.notes.symm, alike.failures.symm⟩

theorem Alike.trans {third : Schedule κ η} (alike : first.Alike second)
    (next : second.Alike third) : first.Alike third :=
  ⟨alike.timeline.trans next.timeline, alike.notes.trans next.notes,
    alike.failures.trans next.failures⟩

/-- An ordinary operation is done at once, and leaves the clock and whether it is closed as they
are. -/
theorem begin_ordinary (schedule : Schedule κ η) {made : ScheduleRequest κ}
    (ordinary : made.Ordinary) :
    (schedule.begin made).2 = [] ∧
      (schedule.begin made).1.timeline.closed = schedule.timeline.closed ∧
      (schedule.begin made).1.timeline.now = schedule.timeline.now := by
  cases made with
  | later delay label cue =>
      refine ⟨rfl, ?_⟩
      simp only [begin, Timeline.later, reply]
      split <;> exact ⟨rfl, rfl⟩
  | cancel number => exact ⟨rfl, rfl, rfl⟩
  | cancelAll => exact ⟨rfl, rfl, rfl⟩
  | now => exact ⟨rfl, rfl, rfl⟩
  | nextDue => exact ⟨rfl, rfl, rfl⟩
  | isClosed => exact ⟨rfl, rfl, rfl⟩
  | update time => contradiction
  | flush limit => contradiction
  | close => contradiction

theorem Alike.begin (alike : first.Alike second) {made : ScheduleRequest κ}
    (ordinary : made.Ordinary) :
    (first.begin made).1.Alike (second.begin made).1 ∧
      (first.begin made).1.world.answer = (second.begin made).1.world.answer := by
  obtain ⟨timeline, ran, notes, answer, failures⟩ := first
  obtain ⟨timelineToo, ranToo, notesToo, answerToo, failuresToo⟩ := second
  obtain ⟨rfl, rfl, rfl⟩ := alike
  cases made <;> first | exact ⟨⟨rfl, rfl, rfl⟩, rfl⟩ | contradiction

def noted (schedule : Schedule κ η) (change : η → η) : Schedule κ η :=
  { schedule with world := { schedule.world with notes := change schedule.world.notes } }

def failed (schedule : Schedule κ η) (timer : String) : Schedule κ η :=
  { schedule with world := { schedule.world with failures := timer :: schedule.world.failures } }

private theorem works_done (timer : String) :
    Works callbacks [.work (.script timer .done)] before [(timer, before.timeline.now)] before :=
  .cons .nil

private theorem works_fail (timer : String) :
    Works callbacks [.work (.script timer .fail)] before [(timer, before.timeline.now)]
      (before.failed timer) :=
  .cons .nil

theorem Works.note {timer : String} {change : η → η} {next : ScheduleScript κ η}
    (works : Works callbacks [.work (.script timer next)] (before.noted change) sights after) :
    Works callbacks [.work (.script timer (.note change next))] before sights after := by
  cases works with
  | cons rest => exact .cons rest

theorem Works.recall {timer : String} {next : η → ScheduleScript κ η}
    (works : Works callbacks [.work (.script timer (next before.world.notes))] before sights
      after) :
    Works callbacks [.work (.script timer (.recall next))] before sights after := by
  cases works with
  | cons rest => exact .cons rest

theorem Works.ask {timer : String} {made : ScheduleRequest κ}
    {next : ScheduleAnswer → ScheduleScript κ η} (ordinary : made.Ordinary)
    (works : Works callbacks [.work (.script timer (next (before.begin made).1.world.answer))]
      (before.begin made).1 sights after) :
    Works callbacks [.work (.script timer (.ask made next))] before
      ((timer, before.timeline.now) :: sights) after := by
  have done : (clockwork callbacks).step (.work (.request made)) before =
      ((before.begin made).1, []) := Prod.ext rfl (begin_ordinary before ordinary).1
  have met : Works callbacks [.work (.request made), .work (.resume timer next)] before sights
      after := by
    refine .cons ?_
    rw [done]
    exact .cons works
  exact .cons met

/-- A script does the same on schedules that are alike, and leaves them alike. -/
theorem Alike.works_script {rest : ScheduleScript κ η}
    (ordinary : rest.Asks ScheduleRequest.Ordinary) (alike : first.Alike second)
    (timer : String) :
    ∃ sights after afterToo,
      Works callbacks [.work (.script timer rest)] first sights after ∧
      Works callbacks [.work (.script timer rest)] second sights afterToo ∧
      after.Alike afterToo ∧ after.timeline.closed = first.timeline.closed ∧
      after.timeline.now = first.timeline.now := by
  induction rest generalizing first second with
  | done =>
      exact ⟨_, first, second, works_done timer, alike.timeline ▸ works_done timer, alike, rfl, rfl⟩
  | fail =>
      have failed : (first.failed timer).Alike (second.failed timer) :=
        ⟨alike.timeline, alike.notes, congrArg (timer :: ·) alike.failures⟩
      exact ⟨_, _, _, works_fail timer, alike.timeline ▸ works_fail timer, failed, rfl, rfl⟩
  | note change next hypothesis =>
      have noted : (first.noted change).Alike (second.noted change) :=
        ⟨alike.timeline, congrArg change alike.notes, alike.failures⟩
      obtain ⟨sights, after, afterToo, works, worksToo, left, closed, now⟩ :=
        hypothesis ordinary noted
      exact ⟨sights, after, afterToo, works.note, worksToo.note, left, closed, now⟩
  | «recall» next hypothesis =>
      obtain ⟨sights, after, afterToo, works, worksToo, left⟩ :=
        hypothesis first.world.notes (ordinary first.world.notes) alike
      rw [alike.notes] at worksToo
      exact ⟨sights, after, afterToo, works.recall, worksToo.recall, left⟩
  | ask made next hypothesis =>
      obtain ⟨begun, answered⟩ := alike.begin ordinary.1
      obtain ⟨_, closed, now⟩ := begin_ordinary first ordinary.1
      obtain ⟨sights, after, afterToo, works, worksToo, left, closedToo, nowToo⟩ :=
        hypothesis (first.begin made).1.world.answer (ordinary.2 _) begun
      rw [answered] at worksToo
      have seen := worksToo.ask ordinary.1
      rw [← alike.timeline] at seen
      exact ⟨_, after, afterToo, works.ask ordinary.1, seen, left, closedToo.trans closed,
        nowToo.trans now⟩

def Ordinary (callbacks : κ → ScheduleScript κ η) : Prop :=
  ∀ cue, (callbacks cue).Asks ScheduleRequest.Ordinary

theorem Ordinary.steady (ordinary : Ordinary callbacks) :
    (clockwork callbacks).Steady sighting := by
  intro timer moment final seen worked
  obtain ⟨_, after, _, works, _, _, closed, now⟩ :=
    (Alike.refl moment).works_script (ordinary timer.payload) timer.name
  obtain ⟨_, rfl⟩ := works.unique worked
  exact ⟨closed, now⟩

/-- The same timers go off on schedules that are alike. -/
theorem Alike.drains {time : Int} {ran : Nat} (ordinary : Ordinary callbacks)
    (alike : first.Alike second)
    (drains : (clockwork callbacks).Drains sighting time first sights ran after) :
    ∃ afterToo, (clockwork callbacks).Drains sighting time second sights ran afterToo ∧
      after.Alike afterToo := by
  induction drains generalizing second with
  | @idle moment idle =>
      rw [alike.timeline] at idle
      exact ⟨_, .idle idle, by simp only [Moment.settle, alike.timeline], alike.notes,
        alike.failures⟩
  | @fire moment middle final timer timeline earlier later ran taken worked _ hypothesis =>
      have start : Schedule.Alike { moment with timeline } { second with timeline } :=
        ⟨rfl, alike.notes, alike.failures⟩
      obtain ⟨_, _, between, works, worksToo, left, _⟩ :=
        start.works_script (ordinary timer.payload) timer.name
      obtain ⟨rfl, rfl⟩ := works.unique worked
      obtain ⟨afterToo, drainsToo, alikeToo⟩ := hypothesis left
      rw [alike.timeline] at taken
      exact ⟨afterToo, .fire taken worksToo drainsToo, alikeToo⟩

theorem performs_iff {made : ScheduleRequest κ} {answer : ScheduleAnswer} :
    Performs callbacks before made sights answer after ↔
      Works callbacks [.work (.request made)] before sights after ∧
        after.world.answer = answer :=
  completes_given_iff

def counted (schedule : Schedule κ η) (time : Int) (ran : Nat) : Schedule κ η :=
  reply (schedule.settle time ran) (.count ran)

theorem works_count {ran : Nat} (asked : before.ran = ran) :
    Works callbacks [.work .count] before sights after ↔
      sights = [] ∧ after = reply before (.count ran) := by
  subst asked
  constructor
  · intro works
    cases works with
    | cons rest =>
        cases rest with
        | nil => exact ⟨rfl, rfl⟩
  · rintro ⟨rfl, rfl⟩
    exact .cons .nil

private theorem works_update {time : Int} :
    Works callbacks [.work (.request (.update time))] before sights after ↔
      Works callbacks (((clockwork callbacks).step (.update time) before).2 ++ [.work .count])
        ((clockwork callbacks).step (.update time) before).1 sights after := by
  constructor
  · intro works
    cases works with
    | cons begun =>
        cases begun with
        | cons rest => exact rest
  · intro rest
    exact .cons (.cons rest)

/-- Moving the clock of an open schedule is a matter of the timers due. -/
theorem performs_update_iff {time : Int} {answer : ScheduleAnswer} (ordinary : Ordinary callbacks)
    (isOpen : before.timeline.closed = false) :
    Performs callbacks before (.update time) sights answer after ↔
      ∃ ran left, (clockwork callbacks).Drains sighting (max before.timeline.now time) before
          sights ran left ∧
        after = counted left (max before.timeline.now time) ran ∧ answer = .count ran := by
  rw [performs_iff, works_update, Clockwork.step_update isOpen]
  constructor
  · rintro ⟨works, rfl⟩
    obtain ⟨middle, earlier, later, drain, count, rfl⟩ := works.split
    obtain ⟨ran, left, drains, rfl⟩ :=
      (Clockwork.completes_drain_iff ordinary.steady isOpen).mp drain
    rw [Nat.zero_add] at count
    obtain ⟨rfl, rfl⟩ := (works_count rfl).mp count
    exact ⟨ran, left, by rwa [List.append_nil], rfl, rfl⟩
  · rintro ⟨ran, left, drains, rfl, rfl⟩
    have drain := drains.completes ordinary.steady isOpen 0
    rw [Nat.zero_add] at drain
    have works := drain.append ((works_count rfl).mpr ⟨rfl, rfl⟩)
    rw [List.append_nil] at works
    exact ⟨works, rfl⟩

private theorem performs_update_closed {time : Int} {answer : ScheduleAnswer}
    (closed : before.timeline.closed = true) :
    Performs callbacks before (.update time) sights answer after ↔
      sights = [] ∧ after = reply { before with ran := 0 } (.count 0) ∧ answer = .count 0 := by
  have stood :
      (clockwork callbacks).step (.update time) before = ({ before with ran := 0 }, []) := by
    simp only [Clockwork.step, closed, if_true]
  rw [performs_iff, works_update, stood, List.nil_append, works_count rfl]
  constructor
  · rintro ⟨⟨rfl, rfl⟩, rfl⟩
    exact ⟨rfl, rfl, rfl⟩
  · rintro ⟨rfl, rfl, rfl⟩
    exact ⟨⟨rfl, rfl⟩, rfl⟩

private theorem alike_counted {time : Int} {left : Schedule κ η} (now : left.timeline.now = time)
    (ran : Nat) : Alike left (counted left time ran) := by
  subst now
  exact ⟨rfl, rfl, rfl⟩

def Reaches (callbacks : κ → ScheduleScript κ η) (before : Schedule κ η) (time : Int)
    (sights : List (String × Int)) (ran : Nat) (final : Schedule κ η) : Prop :=
  ∃ after, Performs callbacks before (.update time) sights (.count ran) after ∧ after.Alike final

variable {sooner time : Int} {ran : Nat} {final : Schedule κ η}

theorem reaches_iff_drains (ordinary : Ordinary callbacks)
    (isOpen : before.timeline.closed = false) :
    Reaches callbacks before time sights ran final ↔
      ∃ left, (clockwork callbacks).Drains sighting (max before.timeline.now time) before sights
          ran left ∧ Alike left final := by
  constructor
  · rintro ⟨_, performs, alike⟩
    obtain ⟨_, left, drains, rfl, counts⟩ := (performs_update_iff ordinary isOpen).mp performs
    cases counts
    exact ⟨left, drains, (alike_counted drains.now ran).trans alike⟩
  · rintro ⟨left, drains, alike⟩
    exact ⟨_, (performs_update_iff ordinary isOpen).mpr ⟨ran, left, drains, rfl, rfl⟩,
      (alike_counted drains.now ran).symm.trans alike⟩

theorem reaches_closed (closed : before.timeline.closed = true) :
    Reaches callbacks before time sights ran final ↔
      sights = [] ∧ ran = 0 ∧ before.Alike final := by
  constructor
  · rintro ⟨_, performs, alike⟩
    obtain ⟨rfl, rfl, counts⟩ := (performs_update_closed closed).mp performs
    cases counts
    exact ⟨rfl, rfl, alike.timeline, alike.notes, alike.failures⟩
  · rintro ⟨rfl, rfl, alike⟩
    exact ⟨_, (performs_update_closed closed).mpr ⟨rfl, rfl, rfl⟩, alike.timeline, alike.notes,
      alike.failures⟩

theorem Alike.reaches (ordinary : Ordinary callbacks) (alike : first.Alike second)
    (reaches : Reaches callbacks first time sights ran final) :
    Reaches callbacks second time sights ran final := by
  cases closed : first.timeline.closed with
  | true =>
      obtain ⟨rfl, rfl, left⟩ := (reaches_closed closed).mp reaches
      rw [alike.timeline] at closed
      exact (reaches_closed closed).mpr ⟨rfl, rfl, alike.symm.trans left⟩
  | false =>
      obtain ⟨left, drains, alikeFinal⟩ := (reaches_iff_drains ordinary closed).mp reaches
      obtain ⟨leftToo, drainsToo, alikeToo⟩ := alike.drains ordinary drains
      rw [alike.timeline] at closed drainsToo
      exact (reaches_iff_drains ordinary closed).mpr
        ⟨leftToo, drainsToo, alikeToo.symm.trans alikeFinal⟩

/-- A move of the clock can be made in two, at any time between. -/
private theorem reaches_iff_of_le (ordinary : Ordinary callbacks) (ordered : sooner ≤ time) :
    Reaches callbacks before time sights ran final ↔
      ∃ middle earlier later first second, Reaches callbacks before sooner earlier first middle ∧
        Reaches callbacks middle time later second final ∧ sights = earlier ++ later ∧
        ran = first + second := by
  cases closed : before.timeline.closed with
  | true =>
      constructor
      · intro reaches
        exact ⟨before, [], sights, 0, ran, (reaches_closed closed).mpr ⟨rfl, rfl, .refl _⟩,
          reaches, rfl, (Nat.zero_add _).symm⟩
      -- a closed schedule stands still, so the first half of the move came to nothing
      · rintro ⟨middle, earlier, later, first, second, reaches, again, rfl, rfl⟩
        obtain ⟨rfl, rfl, alike⟩ := (reaches_closed closed).mp reaches
        rw [List.nil_append, Nat.zero_add]
        exact alike.symm.reaches ordinary again
  | false =>
      have steady := ordinary.steady
      have past : before.timeline.now ≤ max before.timeline.now sooner := Int.le_max_left _ _
      have bounds : max before.timeline.now sooner ≤ max before.timeline.now time := by omega
      have target : max (max before.timeline.now sooner) time = max before.timeline.now time := by
        omega
      -- the second half sets out from the sooner time, where the first has left the clock
      have onward {middle final : Schedule κ η} {earlier later : List (String × Int)}
          {first second : Nat} (drains : (clockwork callbacks).Drains sighting
            (max before.timeline.now sooner) before earlier first middle) :
          Reaches callbacks middle time later second final ↔
            ∃ left, (clockwork callbacks).Drains sighting (max before.timeline.now time) middle
              later second left ∧ Alike left final := by
        rw [reaches_iff_drains ordinary ((drains.closed steady).trans closed), drains.now, target]
      constructor
      · intro reaches
        obtain ⟨left, drains, alike⟩ := (reaches_iff_drains ordinary closed).mp reaches
        obtain ⟨middle, earlier, later, first, second, sooner_drains, again, rfl, rfl⟩ :=
          (Clockwork.drains_iff_of_le steady past bounds).mp drains
        exact ⟨middle, earlier, later, first, second,
          (reaches_iff_drains ordinary closed).mpr ⟨middle, sooner_drains, .refl _⟩,
          (onward sooner_drains).mpr ⟨left, again, alike⟩, rfl, rfl⟩
      · rintro ⟨_, earlier, later, first, second, reaches, again, rfl, rfl⟩
        obtain ⟨middle, drains, alike⟩ := (reaches_iff_drains ordinary closed).mp reaches
        obtain ⟨left, drainsOn, alikeFinal⟩ :=
          (onward drains).mp (alike.symm.reaches ordinary again)
        exact (reaches_iff_drains ordinary closed).mpr ⟨left,
          (Clockwork.drains_iff_of_le steady past bounds).mpr
            ⟨middle, earlier, later, first, second, drains, drainsOn, rfl, rfl⟩, alikeFinal⟩

/-- The same is seen, counted and left by one move of the clock to a time as by a move to a
sooner time followed by one from there. -/
theorem update_update (ordinary : Ordinary callbacks) (before : Schedule κ η)
    (ordered : sooner ≤ time) (sights : List (String × Int)) (ran : Nat)
    (final : Schedule κ η) :
    (∃ after, Performs callbacks before (.update time) sights (.count ran) after ∧
        after.Alike final) ↔
      ∃ middle after earlier later first second,
        Performs callbacks before (.update sooner) earlier (.count first) middle ∧
        Performs callbacks middle (.update time) later (.count second) after ∧
        sights = earlier ++ later ∧ ran = first + second ∧ after.Alike final := by
  constructor
  · intro reaches
    obtain ⟨_, earlier, later, first, second, ⟨middle, performs, alike⟩, again, rfl, rfl⟩ :=
      (reaches_iff_of_le ordinary ordered).mp reaches
    obtain ⟨after, performsOn, left⟩ := alike.symm.reaches ordinary again
    exact ⟨middle, after, earlier, later, first, second, performs, performsOn, rfl, rfl, left⟩
  · rintro ⟨middle, after, earlier, later, first, second, performs, again, rfl, rfl, alike⟩
    exact (reaches_iff_of_le ordinary ordered).mpr ⟨middle, earlier, later, first, second,
      ⟨middle, performs, .refl _⟩, ⟨after, again, alike⟩, rfl, rfl⟩

def beats : Bool → ScheduleScript Bool (List (Option Int))
  | true => .ask .now fun given =>
      .note (fun notes => match given with | .time reading => reading :: notes | _ => notes) <|
        .ask (.later 4 "beat" true) fun _ => .ask (.cancel 1) fun _ => .done
  | false => .fail

def beating : Schedule Bool (List (Option Int)) :=
  let set := ((new 0 [] : Schedule Bool _).begin (.later 3 "beat" true)).1
  ((set.begin (.later 9 "first" false)).1.begin (.later 5 "second" false)).1

theorem update_update_beats :
    Ordinary beats ∧ (6 : Int) ≤ 12 ∧
      ∃ middle after earlier later first second,
        Performs beats beating (.update 6) earlier (.count first) middle ∧
        Performs beats middle (.update 12) later (.count second) after ∧
        [("beat", 3), ("beat", 3), ("beat", 3), ("beat", 3), ("second", 5), ("beat", 7),
          ("beat", 7), ("beat", 7), ("beat", 7), ("beat", 11), ("beat", 11), ("beat", 11),
          ("beat", 11)] = earlier ++ later ∧
        4 = first + second ∧ after.world.notes = [some 11, some 7, some 3] := by
  have ordinary : Ordinary beats := by
    intro cue
    cases cue with
    | false => trivial
    | true => exact ⟨trivial, fun _ => ⟨trivial, fun _ => ⟨trivial, fun _ => trivial⟩⟩⟩
  refine ⟨ordinary, by decide, ?_⟩
  obtain ⟨final, notes, performs⟩ : ∃ final : Schedule Bool (List (Option Int)),
      final.world.notes = [some 11, some 7, some 3] ∧
      Performs beats beating (.update 12) [("beat", 3), ("beat", 3), ("beat", 3), ("beat", 3),
        ("second", 5), ("beat", 7), ("beat", 7), ("beat", 7), ("beat", 7), ("beat", 11),
        ("beat", 11), ("beat", 11), ("beat", 11)] (.count 4) final :=
    ⟨_, rfl, 80, rfl, rfl⟩
  obtain ⟨middle, after, earlier, later, first, second, performs, again, sights, ran, alike⟩ :=
    (update_update ordinary beating (by decide : (6 : Int) ≤ 12) _ _ final).mp
      ⟨final, performs, .refl final⟩
  exact ⟨middle, after, earlier, later, first, second, performs, again, sights, ran,
    alike.notes.trans notes⟩

end Schedule

end VisualNovel.Clock
