import VisualNovel.Clock.Schedule
import VisualNovel.Proofs.Clock.Nesting

/-!
# A clock that goes on

Callbacks may do anything to their schedule, also move its clock themselves. A move
of the clock ends at the time it was made to, even where a move within it went
beyond. So the clock may go back to the time of a move under way; where none was
overtaken, it never shows less than before.
-/

set_option autoImplicit false

namespace VisualNovel.Clock

namespace Schedule

variable {κ η : Type}

/-- What may be taken up, given what would be left. -/
abbrev Admission (κ η : Type) :=
  Job (ScheduleTask κ η) → List (Job (ScheduleTask κ η)) → Prop

def freely : Admission κ η :=
  fun _ _ => True

/-- No move of the clock is made beyond one that it is part of. -/
def within : Admission κ η :=
  fun job rest => job.isWithin rest = true

/-- The moments that come of one: jobs are taken up, and when none is left the host asks for
something. -/
inductive Unfolds (callbacks : κ → ScheduleScript κ η) (admits : Admission κ η)
    (left : List (Job (ScheduleTask κ η))) (first : Schedule κ η) :
    List (Job (ScheduleTask κ η)) → Schedule κ η → Prop where
  | refl : Unfolds callbacks admits left first left first
  | works {job : Job (ScheduleTask κ η)} {rest : List (Job (ScheduleTask κ η))}
      {schedule : Schedule κ η} :
      Unfolds callbacks admits left first (job :: rest) schedule → admits job rest →
      Unfolds callbacks admits left first (((clockwork callbacks).step job schedule).2 ++ rest)
        ((clockwork callbacks).step job schedule).1
  | asks {schedule : Schedule κ η} (made : ScheduleRequest κ) :
      Unfolds callbacks admits left first [] schedule →
      Unfolds callbacks admits left first [.work (.request made)] schedule

/-- No move of the clock is under way to a time that the clock has passed. -/
def Timely (jobs : List (Job (ScheduleTask κ η))) (schedule : Schedule κ η) : Prop :=
  ∀ target ∈ targets jobs, schedule.timeline.now ≤ target

variable {callbacks : κ → ScheduleScript κ η} {admits : Admission κ η}
  {jobs left : List (Job (ScheduleTask κ η))} {earlier later schedule : Schedule κ η} {time : Int}

private theorem begin_now (made : ScheduleRequest κ) (schedule : Schedule κ η) :
    (schedule.begin made).1.timeline.now = schedule.timeline.now ∧
      targets (schedule.begin made).2 = [] := by
  cases made with
  | later delay label cue => exact ⟨Timeline.later_now delay label cue, rfl⟩
  | update time | flush limit => exact ⟨rfl, rfl⟩
  | cancel number | cancelAll | close | now | nextDue | isClosed => exact ⟨rfl, rfl⟩

private theorem act_now (task : ScheduleTask κ η) (schedule : Schedule κ η) :
    (schedule.act task).1.timeline.now = schedule.timeline.now ∧
      targets (schedule.act task).2 = [] := by
  cases task with
  | request made => exact begin_now made schedule
  | count => exact ⟨rfl, rfl⟩
  | script timer script =>
      simp only [act]
      cases script.proceed schedule.world.notes with
      | mk pause notes => cases pause <;> exact ⟨rfl, rfl⟩
  | resume timer next => exact ⟨rfl, rfl⟩

theorem keepsTime (callbacks : κ → ScheduleScript κ η) : (clockwork callbacks).KeepsTime where
  now task schedule := (act_now task schedule).1
  moves task schedule := (act_now task schedule).2

theorem Unfolds.past (unfolds : Unfolds callbacks admits left earlier jobs later)
    (past : Past time left earlier) : Past time jobs later := by
  induction unfolds with
  | refl => exact past
  | works _ _ hypothesis => exact hypothesis.step (keepsTime callbacks)
  | asks made _ hypothesis => exact hypothesis

def takeUp (callbacks : κ → ScheduleScript κ η) :
    Nat → List (Job (ScheduleTask κ η)) → Schedule κ η → List (Job (ScheduleTask κ η)) × Schedule κ η
  | 0, jobs, schedule => (jobs, schedule)
  | _ + 1, [], schedule => ([], schedule)
  | count + 1, job :: rest, schedule =>
      takeUp callbacks count (((clockwork callbacks).step job schedule).2 ++ rest)
        ((clockwork callbacks).step job schedule).1

theorem Unfolds.takeUp (unfolds : Unfolds callbacks freely left earlier jobs schedule)
    (count : Nat) :
    Unfolds callbacks freely left earlier (Schedule.takeUp callbacks count jobs schedule).1
      (Schedule.takeUp callbacks count jobs schedule).2 := by
  induction count generalizing jobs schedule with
  | zero => exact unfolds
  | succ count hypothesis =>
      cases jobs with
      | nil => exact unfolds
      | cons job rest => exact hypothesis (unfolds.works trivial)

def hurried : Bool → ScheduleScript Bool Unit
  | true => .ask (.later 10 "next" false) fun _ => .ask (.update 20) fun _ => .done
  | false => .done

def interrupted : List (Job (ScheduleTask Bool Unit)) × Schedule Bool Unit :=
  takeUp hurried 3 [.work (.request (.update 10))]
    (takeUp hurried 1 [.work (.request (.later 5 "first" true))] (new 0 ())).2

/-- Where no move of the clock under way was overtaken, the clock never shows less again. -/
theorem Unfolds.clock_never_falls (timely : Timely left earlier)
    (unfolds : Unfolds callbacks admits left earlier jobs later) :
    earlier.timeline.now ≤ later.timeline.now := by
  have past : Past earlier.timeline.now left earlier :=
    List.forall_mem_cons.mpr ⟨Int.le_refl _, timely⟩
  exact unfolds.past past _ (.head _)

/-- A callback in the midst of a move of the clock to a time moves it further. -/
theorem clock_never_falls_hurried :
    ∃ jobs earlier later, Unfolds hurried freely [] (new 0 ()) jobs earlier ∧
      Unfolds hurried freely jobs earlier [] later ∧ Timely jobs earlier ∧
      earlier.timeline.now = 5 ∧ later.timeline.now = 10 ∧
      earlier.timeline.now ≤ later.timeline.now := by
  have set := (Unfolds.refl.asks (.later 5 "first" true) : Unfolds hurried freely [] (new 0 ()) _ _)
  have called : Unfolds hurried freely [] (new 0 ()) interrupted.1 interrupted.2 :=
    ((set.takeUp 1).asks (.update 10)).takeUp 3
  have timely : Timely interrupted.1 interrupted.2 :=
    (by decide : ∀ target ∈ [(10 : Int)], 5 ≤ target)
  have none : (Schedule.takeUp hurried 16 interrupted.1 interrupted.2).1 = [] :=
    List.isEmpty_iff.mp (by decide +kernel)
  have resumed : Unfolds hurried freely interrupted.1 interrupted.2 _ _ := Unfolds.refl.takeUp 16
  rw [none] at resumed
  exact ⟨_, _, _, called, resumed, timely, rfl, by decide +kernel,
    Unfolds.clock_never_falls timely resumed⟩

/-- The clock goes back to a time that a move within the move to it went beyond. -/
theorem clock_falls_hurried :
    ∃ jobs earlier later, Unfolds hurried freely [] (new 0 ()) jobs earlier ∧
      Unfolds hurried freely jobs earlier [] later ∧
      earlier.timeline.now = 20 ∧ later.timeline.now = 10 := by
  have set := (Unfolds.refl.asks (.later 5 "first" true) : Unfolds hurried freely [] (new 0 ()) _ _)
  have called := ((set.takeUp 1).asks (.update 10)).takeUp 13
  exact ⟨_, _, _, called, Unfolds.refl.takeUp 6, rfl, rfl⟩

/-- Where no move of the clock goes beyond one that it is within, none is overtaken. -/
theorem Unfolds.timely {first : Int} {notes : η}
    (unfolds : Unfolds callbacks within [] (new first notes) jobs schedule) :
    Timely jobs schedule := by
  have nested : Nested jobs schedule := by
    induction unfolds with
    | refl => exact nested_of_idle rfl _
    | works _ admitted hypothesis => exact hypothesis.step (keepsTime callbacks) admitted
    | asks made _ hypothesis => exact nested_of_idle rfl _
  exact (List.pairwise_cons.mp nested).1

end Schedule

end VisualNovel.Clock
