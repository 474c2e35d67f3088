import VisualNovel.Proofs.Clock.Draining
import VisualNovel.Proofs.Clock.Tending

/-!
# Moves of the clock within others

A timer may move the clock while it is being moved. A move ends at the time it was made
to, even where a move within it went beyond. Where no such move goes beyond one that it is
part of, the clock has passed none of those under way. The timers of an open timeline stay
in order whatever is done to it.
-/

set_option autoImplicit false

namespace VisualNovel.Clock

variable {ρ σ τ : Type}

def Job.target? : Job τ → Option Int
  | .drain time _ | .drained time _ => some time
  | .work _ | .update _ | .flush _ _ | .flushed _ _ => none

/-- The times to which moves of the clock are under way, those of the moves within first. -/
def targets (jobs : List (Job τ)) : List Int :=
  jobs.filterMap Job.target?

/-- Whether a move of the clock goes beyond none that it is part of. -/
def Job.isWithin (job : Job τ) (rest : List (Job τ)) : Bool :=
  match job with
  | .update time => (targets rest).all fun target => decide (time ≤ target)
  | _ => true

/-- Neither the clock nor a move under way is before a time. -/
def Past (time : Int) (jobs : List (Job τ)) (moment : Moment ρ σ) : Prop :=
  ∀ reading ∈ moment.timeline.now :: targets jobs, time ≤ reading

/-- Of the moves under way those within others are to no later times, and the clock has passed
none of them. -/
def Nested (jobs : List (Job τ)) (moment : Moment ρ σ) : Prop :=
  (moment.timeline.now :: targets jobs).Pairwise (· ≤ ·)

/-- What a job does to the clock, and the moves that it leaves under way: it leaves the clock alone,
begins a move, carries one on or ends it. -/
inductive Shifts (before : Int) : Job τ → Int → List Int → Prop where
  | stays {job : Job τ} : job.target? = none → Shifts before job before []
  | begins (time : Int) : Shifts before (.update time) before [max before time]
  | carries {job : Job τ} {target after : Int} : job.target? = some target →
      before ≤ after → after ≤ max before target → Shifts before job after [target]
  | ends {job : Job τ} {target : Int} : job.target? = some target →
      Shifts before job target []

/-- The tasks of a clockwork leave the clock to its jobs. -/
structure Clockwork.KeepsTime (clockwork : Clockwork ρ σ τ) : Prop where
  now (task : τ) (moment : Moment ρ σ) :
    (clockwork.act task moment).1.timeline.now = moment.timeline.now
  moves (task : τ) (moment : Moment ρ σ) : targets (clockwork.act task moment).2 = []

/-! ## Orderly timelines -/

/-- A timer that is not among those looked for makes no difference to them. -/
theorem filter_insertTimer {timer : Timer ρ} {timers : List (Timer ρ)} {holds : Timer ρ → Bool}
    (other : holds timer = false) :
    (insertTimer timer timers).filter holds = timers.filter holds := by
  induction timers with
  | nil => simp [insertTimer, other]
  | cons first rest hypothesis =>
      unfold insertTimer
      split
      · rw [List.filter_cons_of_neg (by simp [other])]
      · simp only [List.filter_cons, hypothesis]

/-- The only one of the timers looked for is the one that comes in. -/
theorem filter_insertTimer_of_none {timer : Timer ρ} {timers : List (Timer ρ)}
    {holds : Timer ρ → Bool} (own : holds timer = true) (none : timers.filter holds = []) :
    (insertTimer timer timers).filter holds = [timer] := by
  have perm := (insertTimer_perm timer timers).filter holds
  rw [List.filter_cons_of_pos own, none] at perm
  exact List.perm_singleton.mp perm

namespace Timeline

variable {timeline next : Timeline ρ}

theorem Tends.now (tends : timeline.Tends next) : next.now = timeline.now := by
  induction tends with
  | refl => rfl
  | later delay label payload _ hypothesis => rw [later_now, hypothesis]
  | cancel number _ hypothesis => exact hypothesis

theorem Tends.shut (tends : timeline.Tends next) : next.closed = timeline.closed := by
  induction tends with
  | refl => rfl
  | later delay label payload _ hypothesis => rw [later_closed, hypothesis]
  | cancel number _ hypothesis => exact hypothesis

theorem Orderly.tends (orderly : timeline.Orderly) (tends : timeline.Tends next) :
    next.Orderly := by
  induction tends with
  | refl => exact orderly
  | later delay label payload _ hypothesis => exact hypothesis.later delay label payload
  | cancel number _ hypothesis => exact hypothesis.cancel number

theorem Orderly.of_pending (isOpen : timeline.closed = false) (idle : timeline.pending = []) :
    timeline.Orderly :=
  ⟨isOpen, by simp [idle], by simp [idle], by simp [idle], by simp [idle]⟩

end Timeline

/-! ## Moves of the clock -/

variable {clockwork : Clockwork ρ σ τ} {job : Job τ} {rest made : List (Job τ)}
  {moment : Moment ρ σ} {time : Int}

theorem targets_append (jobs more : List (Job τ)) :
    targets (jobs ++ more) = targets jobs ++ targets more :=
  List.filterMap_append

theorem targets_work (tasks : List τ) : targets (tasks.map Job.work) = [] := by
  simp [targets, List.filterMap_map, Function.comp_def, Job.target?]

theorem targets_cons (job : Job τ) (rest : List (Job τ)) :
    targets (job :: rest) = targets [job] ++ targets rest :=
  targets_append [job] rest

theorem targets_fired (tasks : List τ) (time : Int) (ran : Nat) :
    targets (tasks.map Job.work ++ [.drained time ran]) = [time] := by
  rw [targets_append, targets_work]
  rfl

/-- Each job leaves the clock alone, begins a move of it, carries one on or ends it. -/
private theorem shifts_step (keeps : clockwork.KeepsTime) (job : Job τ)
    (moment : Moment ρ σ) :
    Shifts moment.timeline.now job (clockwork.step job moment).1.timeline.now
      (targets (clockwork.step job moment).2) := by
  cases job with
  | work task =>
      change Shifts _ _ (clockwork.act task moment).1.timeline.now
        (targets (clockwork.act task moment).2)
      rw [keeps.now, keeps.moves]
      exact .stays rfl
  | update time =>
      simp only [Clockwork.step]
      split
      · exact .stays rfl
      · exact .begins time
  | drain time ran =>
      cases taken : moment.timeline.takeDue? time with
      | none =>
          rw [Clockwork.step_drain_idle taken]
          exact .ends rfl
      | some found =>
          obtain ⟨timer, timeline⟩ := found
          obtain ⟨_, _, due, rfl⟩ := Timeline.takeDue?_eq_some.mp taken
          rw [Clockwork.step_drain_fire taken, targets_fired]
          have last : moment.timeline.now ≤ max moment.timeline.now timer.due := by omega
          exact .carries rfl last (by dsimp only; omega)
  | drained time ran =>
      simp only [Clockwork.step]
      split
      · exact .ends rfl
      · exact .carries rfl (Int.le_refl _) (Int.le_max_left _ _)
  | flush limit ran =>
      simp only [Clockwork.step]
      split
      · exact .stays rfl
      · split
        · exact .stays rfl
        · exact .stays rfl
  | flushed limit ran => exact .stays rfl

theorem targets_cons_none (idle : job.target? = none) : targets (job :: rest) = targets rest :=
  List.filterMap_cons_none idle

theorem targets_cons_some {target : Int} (found : job.target? = some target) :
    targets (job :: rest) = target :: targets rest :=
  List.filterMap_cons_some found

theorem Shifts.past {before after : Int} {made : List Int} (shifts : Shifts before job after made)
    (past : ∀ reading ∈ before :: targets (job :: rest), time ≤ reading) :
    ∀ reading ∈ after :: (made ++ targets rest), time ≤ reading := by
  cases shifts with
  | stays none =>
      rw [targets_cons_none none] at past
      exact past
  | begins time =>
      rw [targets_cons_none rfl] at past
      simp only [List.forall_mem_cons, List.singleton_append] at past ⊢
      exact ⟨past.1, by omega, past.2⟩
  | carries found on _ =>
      rw [targets_cons_some found] at past
      simp only [List.forall_mem_cons, List.singleton_append] at past ⊢
      exact ⟨Int.le_trans past.1 on, past.2⟩
  | ends found =>
      rw [targets_cons_some found] at past
      exact (List.forall_mem_cons.mp past).2

theorem Shifts.nested {before after : Int} {made : List Int}
    (shifts : Shifts before job after made) (within : job.isWithin rest = true)
    (nested : (before :: targets (job :: rest)).Pairwise (· ≤ ·)) :
    (after :: (made ++ targets rest)).Pairwise (· ≤ ·) := by
  cases shifts with
  | stays none =>
      rw [targets_cons_none none] at nested
      exact nested
  | begins time =>
      have enclosed : ∀ target ∈ targets rest, time ≤ target := by
        simpa [Job.isWithin] using within
      rw [targets_cons_none rfl] at nested
      simp only [List.pairwise_cons, List.forall_mem_cons, List.singleton_append] at nested ⊢
      refine ⟨⟨Int.le_max_left _ _, nested.1⟩, fun target member => ?_, nested.2⟩
      exact Int.max_le.mpr ⟨nested.1 target member, enclosed target member⟩
  | carries found _ limited =>
      rw [targets_cons_some found] at nested
      simp only [List.pairwise_cons, List.forall_mem_cons, List.singleton_append] at nested ⊢
      obtain ⟨⟨past, _⟩, inner, rest⟩ := nested
      rw [Int.max_eq_right past] at limited
      exact ⟨⟨limited, fun other member => Int.le_trans limited (inner other member)⟩, inner, rest⟩
  | ends found =>
      rw [targets_cons_some found] at nested
      exact (List.pairwise_cons.mp nested).2

theorem Past.step (past : Past time (job :: rest) moment) (keeps : clockwork.KeepsTime) :
    Past time ((clockwork.step job moment).2 ++ rest) (clockwork.step job moment).1 := by
  unfold Past
  rw [targets_append]
  exact (shifts_step keeps job moment).past past

/-- A move of the clock that stays within those that it is part of leaves the moves nested. -/
theorem Nested.step (nested : Nested (job :: rest) moment) (keeps : clockwork.KeepsTime)
    (within : job.isWithin rest = true) :
    Nested ((clockwork.step job moment).2 ++ rest) (clockwork.step job moment).1 := by
  unfold Nested
  rw [targets_append]
  exact (shifts_step keeps job moment).nested within nested

/-- What leaves the clock alone, and the moves under way, leaves them nested. -/
theorem Nested.carries {next : Moment ρ σ} (nested : Nested (job :: rest) moment)
    (same : targets made = targets [job]) (now : next.timeline.now = moment.timeline.now) :
    Nested (made ++ rest) next := by
  unfold Nested at *
  rwa [targets_append, same, now, ← targets_cons]

theorem Nested.now_le {target : Int} (nested : Nested (job :: rest) moment)
    (found : job.target? = some target) : moment.timeline.now ≤ target := by
  unfold Nested at nested
  rw [targets_cons_some found] at nested
  exact (List.pairwise_cons.mp nested).1 target (.head _)

theorem nested_of_idle {jobs : List (Job τ)} (idle : targets jobs = []) (moment : Moment ρ σ) :
    Nested jobs moment := by
  unfold Nested
  rw [idle]
  exact List.pairwise_singleton _ _

/-- What a job of the clock comes to on an open timeline. -/
inductive Clockwork.Runs (clockwork : Clockwork ρ σ τ) (job : Job τ) (moment : Moment ρ σ) :
    Prop where
  /-- It leaves the clock alone and keeps the move under way that it belongs to. -/
  | carries {made : List (Job τ)} (ran : Nat) :
      clockwork.step job moment = ({ moment with ran }, made) →
      (∀ first ∈ made, ∀ task, first ≠ .work task) → targets made = targets [job] →
      Runs clockwork job moment
  | begins (time : Int) : job = .update time →
      clockwork.step job moment = (moment, [.drain (max moment.timeline.now time) 0]) →
      Runs clockwork job moment
  | settles (time : Int) (ran : Nat) : job = .drain time ran →
      moment.timeline.takeDue? time = none →
      clockwork.step job moment = (moment.settle time ran, []) → Runs clockwork job moment
  | fires (time : Int) (ran : Nat) (timer : Timer ρ) (timeline : Timeline ρ) :
      job = .drain time ran → moment.timeline.takeDue? time = some (timer, timeline) →
      clockwork.step job moment = ({ moment with timeline },
        (clockwork.start timer).map .work ++ [.drained time (ran + 1)]) →
      Runs clockwork job moment

/-- Every job of the clock comes to one of four things. -/
theorem Clockwork.runs (clockwork : Clockwork ρ σ τ) (isOpen : moment.timeline.closed = false)
    (clock : ∀ task, job ≠ .work task) : clockwork.Runs job moment := by
  cases job with
  | work task => exact absurd rfl (clock task)
  | update time => exact .begins time rfl (step_update isOpen)
  | drain time ran =>
      cases taken : moment.timeline.takeDue? time with
      | none => exact .settles time ran rfl taken (step_drain_idle taken)
      | some found =>
          exact .fires time ran found.1 found.2 rfl taken (step_drain_fire taken)
  | drained time ran =>
      exact .carries moment.ran (step_drained isOpen) (by simp) rfl
  | flush limit ran =>
      by_cases enough : limit ≤ ran
      · exact .carries ran (step_flush_enough enough) (by simp) rfl
      · cases next : moment.timeline.nextDue? with
        | none => exact .carries ran (step_flush_idle next) (by simp) rfl
        | some due =>
            exact .carries moment.ran (step_flush_more isOpen enough next) (by simp) rfl
  | flushed limit ran => exact .carries moment.ran rfl (by simp) rfl

end VisualNovel.Clock
