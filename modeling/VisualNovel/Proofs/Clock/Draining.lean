import VisualNovel.Clock.Clockwork
import VisualNovel.Proofs.Agenda.Completion

/-!
# Moves of the clock

A move of the clock, told without its jobs: the timers that are due go off one
after another, and each is worked off before the next. A move to a time can be
made in two steps, whatever the timers do, as each finds the clock at the time it
was due.
-/

set_option autoImplicit false

/-!
## What the jobs of the clock come to

Each job of the clock is done in one step, which depends on the timeline alone.
-/

namespace VisualNovel.Clock

def Job.any {τ : Type} (job : Job τ) (holds : τ → Bool) : Bool :=
  match job with
  | .work task => holds task
  | _ => false

def Job.all {τ : Type} (job : Job τ) (holds : τ → Bool) : Bool :=
  match job with
  | .work task => holds task
  | _ => true

theorem Job.all_of_clock {τ : Type} {job : Job τ} {holds : τ → Bool}
    (clock : ∀ task, job ≠ .work task) : job.all holds = true := by
  cases job with
  | work task => exact absurd rfl (clock task)
  | update | drain | drained | flush | flushed => rfl

namespace Clockwork

variable {ρ σ τ : Type} {clockwork : Clockwork ρ σ τ} {moment : Moment ρ σ}
  {time limit due : Int} {ran : Nat} {timer : Timer ρ} {timeline : Timeline ρ}

/-- The jobs of the clock leave the world alone. -/
theorem world_step {job : Job τ} (clock : ∀ task, job ≠ .work task) :
    (clockwork.step job moment).1.world = moment.world := by
  cases job with
  | work task => exact absurd rfl (clock task)
  | update time =>
      simp only [step]
      split <;> rfl
  | drain time ran =>
      simp only [step]
      split <;> rfl
  | drained time ran =>
      simp only [step]
      split <;> rfl
  | flush limit ran =>
      simp only [step]
      split
      · rfl
      · split <;> rfl
  | flushed limit ran => rfl

theorem step_update (isOpen : moment.timeline.closed = false) :
    clockwork.step (.update time) moment =
      (moment, [.drain (max moment.timeline.now time) 0]) := by
  simp [step, isOpen]

theorem step_drain_fire (taken : moment.timeline.takeDue? time = some (timer, timeline)) :
    clockwork.step (.drain time ran) moment =
      ({ moment with timeline },
        (clockwork.start timer).map .work ++ [.drained time (ran + 1)]) := by
  simp only [step, taken]

theorem step_drain_idle (idle : moment.timeline.takeDue? time = none) :
    clockwork.step (.drain time ran) moment = (moment.settle time ran, []) := by
  simp only [step, idle]

theorem step_drained (isOpen : moment.timeline.closed = false) :
    clockwork.step (.drained time ran) moment = (moment, [.drain time ran]) := by
  simp [step, isOpen]

theorem step_flush_enough (enough : limit ≤ ran) :
    clockwork.step (.flush limit ran) moment = ({ moment with ran }, []) := by
  simp [step, enough]

theorem step_flush_idle (idle : moment.timeline.nextDue? = none) :
    clockwork.step (.flush limit ran) moment = ({ moment with ran }, []) := by
  simp [step, idle]

theorem step_flush_more (isOpen : moment.timeline.closed = false) (more : ¬ limit ≤ ran)
    (next : moment.timeline.nextDue? = some due) :
    clockwork.step (.flush limit ran) moment =
      (moment, [.update due, .flushed limit ran]) := by
  simp [step, isOpen, more, next]

theorem step_flushed {count : Nat} (counted : moment.ran = count) :
    clockwork.step (.flushed limit ran) moment = (moment, [.flush limit (ran + count)]) := by
  simp only [step, counted]

/-- A job of the clock makes a timer go off, or sees to the clock and nothing else. -/
theorem step_clock_cases {job : Job τ} (clock : ∀ task, job ≠ .work task) :
    (∃ now ran,
      (clockwork.step job moment).1 =
          { moment with timeline := { moment.timeline with now }, ran } ∧
        ∀ made ∈ (clockwork.step job moment).2, ∀ task, made ≠ .work task) ∨
      ∃ time ran timer timeline,
        moment.timeline.takeDue? time = some (timer, timeline) ∧
          clockwork.step job moment =
            ({ moment with timeline },
              (clockwork.start timer).map .work ++ [.drained time (ran + 1)]) := by
  cases job with
  | work task => exact absurd rfl (clock task)
  | update time =>
      left
      simp only [step]
      split
      · exact ⟨moment.timeline.now, 0, rfl, by simp⟩
      · exact ⟨moment.timeline.now, moment.ran, rfl, by simp⟩
  | drain time ran =>
      cases taken : moment.timeline.takeDue? time with
      | none =>
          left
          rw [step_drain_idle taken]
          exact ⟨time, ran, rfl, by simp⟩
      | some found =>
          right
          exact ⟨time, ran, found.1, found.2, taken, step_drain_fire taken⟩
  | drained time ran =>
      left
      simp only [step]
      split
      · exact ⟨time, ran, rfl, by simp⟩
      · exact ⟨moment.timeline.now, moment.ran, rfl, by simp⟩
  | flush limit ran =>
      left
      simp only [step]
      split
      · exact ⟨moment.timeline.now, ran, rfl, by simp⟩
      · split
        · exact ⟨moment.timeline.now, ran, rfl, by simp⟩
        · exact ⟨moment.timeline.now, moment.ran, rfl, by simp⟩
  | flushed limit ran =>
      left
      exact ⟨moment.timeline.now, moment.ran, rfl, by simp [step]⟩

end Clockwork

end VisualNovel.Clock

/-! ## Moves of the clock -/

namespace VisualNovel.Clock

open VisualNovel.Agenda

variable {ρ σ τ ω : Type}

def onTasks (look : τ → Moment ρ σ → List ω) : Job τ → Moment ρ σ → List ω
  | .work task, moment => look task moment
  | _, _ => []

/-- Timers due by a time go off until none is left. Tells what is seen, how many went off, and
what the clock is left in. -/
inductive Clockwork.Drains (clockwork : Clockwork ρ σ τ) (look : τ → Moment ρ σ → List ω)
    (time : Int) : Moment ρ σ → List ω → Nat → Moment ρ σ → Prop where
  | idle {moment : Moment ρ σ} : moment.timeline.takeDue? time = none →
      Drains clockwork look time moment [] 0 (moment.settle time moment.ran)
  | fire {moment middle final : Moment ρ σ} {timer : Timer ρ} {timeline : Timeline ρ}
      {earlier later : List ω} {ran : Nat} :
      moment.timeline.takeDue? time = some (timer, timeline) →
      Completes (onTasks look) clockwork.step ((clockwork.start timer).map .work)
        { moment with timeline } earlier middle →
      Drains clockwork look time middle later ran final →
      Drains clockwork look time moment (earlier ++ later) (ran + 1) final

namespace Timeline

variable {timeline after : Timeline ρ} {timer : Timer ρ} {sooner time : Int}

/-- What is taken is the first of the pending timers, and the clock moves on to it. -/
theorem takeDue?_eq_some :
    timeline.takeDue? time = some (timer, after) ↔
      ∃ rest, timeline.pending = timer :: rest ∧ timer.due ≤ time ∧
        { timeline with
          now := max timeline.now timer.due
          pending := rest
          fired := ⟨timer.due, timer.number, max timeline.now timer.due⟩ :: timeline.fired } =
            after := by
  unfold takeDue?
  cases waiting : timeline.pending with
  | nil => simp
  | cons first rest =>
      by_cases due : first.due ≤ time
      · simp only [due, if_true, Option.some.injEq, Prod.mk.injEq, List.cons.injEq]
        constructor
        · rintro ⟨rfl, made⟩
          exact ⟨rest, ⟨rfl, rfl⟩, due, made⟩
        · rintro ⟨_, ⟨rfl, rfl⟩, _, made⟩
          exact ⟨rfl, made⟩
      · simp only [due, if_false, List.cons.injEq, false_iff, reduceCtorEq]
        rintro ⟨_, ⟨rfl, _⟩, dueToo, _⟩
        exact due dueToo

theorem takeDue?_eq_none :
    timeline.takeDue? time = none ↔ ∀ timer ∈ timeline.pending.head?, time < timer.due := by
  unfold takeDue?
  cases timeline.pending with
  | nil => simp
  | cons first rest =>
      by_cases due : first.due ≤ time
      · simp [due]
      · simp only [due, if_false, List.head?_cons, Option.mem_some_iff, forall_eq', true_iff]
        omega

private theorem takeDue?_of_le (ordered : sooner ≤ time)
    (taken : timeline.takeDue? sooner = some (timer, after)) :
    timeline.takeDue? time = some (timer, after) := by
  obtain ⟨rest, waiting, due, made⟩ := takeDue?_eq_some.mp taken
  exact takeDue?_eq_some.mpr ⟨rest, waiting, by omega, made⟩

/-- Where nothing is due by a time that has not passed, the clock may stand there when timers
are taken. -/
theorem takeDue?_settled (past : timeline.now ≤ sooner)
    (idle : timeline.takeDue? sooner = none) :
    { timeline with now := sooner }.takeDue? time = timeline.takeDue? time := by
  have late := takeDue?_eq_none.mp idle
  unfold takeDue?
  cases waiting : timeline.pending with
  | nil => rfl
  | cons first rest =>
      have ahead : sooner < first.due := late first (by rw [waiting]; rfl)
      have clock : max sooner first.due = max timeline.now first.due := by omega
      simp only [clock]

end Timeline

namespace Clockwork

variable {clockwork : Clockwork ρ σ τ} {look : τ → Moment ρ σ → List ω}
variable {moment middle final : Moment ρ σ} {seen : List ω} {ran : Nat} {sooner time : Int}

/-- Working off timers neither closes the timeline nor moves its clock. -/
def Steady (clockwork : Clockwork ρ σ τ) (look : τ → Moment ρ σ → List ω) : Prop :=
  ∀ (timer : Timer ρ) (moment final : Moment ρ σ) (seen : List ω),
    Completes (onTasks look) clockwork.step ((clockwork.start timer).map .work) moment seen final →
      final.timeline.closed = moment.timeline.closed ∧ final.timeline.now = moment.timeline.now

/-- Draining is what the clockwork does when it is to drain. -/
theorem Drains.completes (drains : Drains clockwork look time moment seen ran final)
    (steady : clockwork.Steady look) (isOpen : moment.timeline.closed = false) (before : Nat) :
    Completes (onTasks look) clockwork.step [.drain time before] moment seen
      (final.settle time (before + ran)) := by
  induction drains generalizing before with
  | @idle moment idle =>
      refine .cons ?_
      rw [step_drain_idle idle]
      exact .nil
  | @fire moment middle final timer timeline earlier later ran taken worked _ hypothesis =>
      obtain ⟨_, _, _, made⟩ := Timeline.takeDue?_eq_some.mp taken
      have stillOpen : middle.timeline.closed = false := by
        rw [(steady _ _ _ _ worked).1, ← made]
        exact isOpen
      have rest : Completes (onTasks look) clockwork.step [.drained time (before + 1)] middle
          later (final.settle time (before + (ran + 1))) := by
        refine .cons ?_
        rw [step_drained stillOpen]
        have after := hypothesis stillOpen (before + 1)
        rwa [Nat.add_assoc, Nat.add_comm 1 ran] at after
      refine .cons ?_
      rw [step_drain_fire taken, List.append_nil]
      exact worked.append rest

theorem Drains.now (drains : Drains clockwork look time moment seen ran final) :
    final.timeline.now = time := by
  induction drains with
  | idle _ => rfl
  | fire _ _ _ hypothesis => exact hypothesis

theorem Drains.closed (drains : Drains clockwork look time moment seen ran final)
    (steady : clockwork.Steady look) : final.timeline.closed = moment.timeline.closed := by
  induction drains with
  | idle _ => rfl
  | fire taken worked _ hypothesis =>
      obtain ⟨_, _, _, made⟩ := Timeline.takeDue?_eq_some.mp taken
      rw [hypothesis, (steady _ _ _ _ worked).1, ← made]

/-- The run after the timers due at one time was worked off is that of a move of the clock. -/
theorem run_drained {budget : Nat} {before : Nat} (isOpen : moment.timeline.closed = false)
    (finished : Agenda.run clockwork.step budget [.drained time before] moment = some final) :
    ∃ left, left + 1 = budget ∧
      Agenda.run clockwork.step left [.drain time before] moment = some final ∧
      watch (onTasks look) clockwork.step budget [.drained time before] moment =
        watch (onTasks look) clockwork.step left [.drain time before] moment := by
  cases budget with
  | zero => simp [Agenda.run] at finished
  | succ left =>
      rw [run_cons, step_drained isOpen] at finished
      refine ⟨left, rfl, finished, ?_⟩
      rw [watch, step_drained isOpen]
      rfl

/-- Whatever comes to an end when the clockwork is to drain is draining. -/
private theorem Drains.of_run (steady : clockwork.Steady look) {budget before : Nat}
    (isOpen : moment.timeline.closed = false)
    (finished : Agenda.run clockwork.step budget [.drain time before] moment = some final) :
    ∃ ran after, Drains clockwork look time moment
        (watch (onTasks look) clockwork.step budget [.drain time before] moment) ran after ∧
      final = after.settle time (before + ran) := by
  -- by induction on the budget: what a timer leaves of it is enough for those that follow
  induction budget using Nat.strongRecOn generalizing moment before with
  | ind budget hypothesis =>
      cases budget with
      | zero => simp [Agenda.run] at finished
      | succ budget =>
          rw [run_cons] at finished
          rw [watch]
          cases taken : moment.timeline.takeDue? time with
          | none =>
              rw [step_drain_idle taken] at finished ⊢
              simp only [List.append_nil, run_nil, Option.some.injEq] at finished
              simp only [List.append_nil, watch, onTasks]
              exact ⟨0, _, .idle taken, finished.symm⟩
          | some found =>
              obtain ⟨timer, timeline⟩ := found
              rw [step_drain_fire taken] at finished ⊢
              simp only [List.append_nil] at finished
              simp only [List.append_nil, onTasks, List.nil_append]
              obtain ⟨spent, left, middle, enough, worked, goesOn, watched⟩ :=
                run_append (onTasks look) finished
              have work := completes_iff.mpr
                ⟨spent, worked, Eq.refl (watch (onTasks look) clockwork.step spent _ _)⟩
              obtain ⟨_, _, _, made⟩ := Timeline.takeDue?_eq_some.mp taken
              have stillOpen : middle.timeline.closed = false := by
                rw [(steady _ _ _ _ work).1, ← made]
                exact isOpen
              obtain ⟨fewer, less, again, watchedAgain⟩ := run_drained stillOpen goesOn
              obtain ⟨ran, after, drains, settled⟩ := hypothesis fewer (by omega) stillOpen again
              refine ⟨ran + 1, after, ?_, by rw [settled, Nat.add_assoc, Nat.add_comm 1]⟩
              rw [watched, watchedAgain]
              exact .fire taken work drains

theorem completes_drain_iff (steady : clockwork.Steady look)
    (isOpen : moment.timeline.closed = false) {before : Nat} :
    Completes (onTasks look) clockwork.step [.drain time before] moment seen final ↔
      ∃ ran after, Drains clockwork look time moment seen ran after ∧
        final = after.settle time (before + ran) := by
  constructor
  · intro completes
    obtain ⟨budget, finished, rfl⟩ := completes_iff.mp completes
    exact Drains.of_run steady isOpen finished
  · rintro ⟨ran, after, drains, rfl⟩
    exact drains.completes steady isOpen before

theorem Steady.now_le (steady : clockwork.Steady look) {timer : Timer ρ} {timeline : Timeline ρ}
    (past : moment.timeline.now ≤ time)
    (taken : moment.timeline.takeDue? time = some (timer, timeline))
    (worked : Completes (onTasks look) clockwork.step ((clockwork.start timer).map .work)
      { moment with timeline } seen middle) : middle.timeline.now ≤ time := by
  obtain ⟨_, _, due, made⟩ := Timeline.takeDue?_eq_some.mp taken
  rw [(steady _ _ _ _ worked).2, ← made]
  exact Int.max_le.mpr ⟨past, due⟩

/-- Where nothing is due by a time that has not passed, a move may begin with the clock there. -/
theorem drains_settled_iff (past : moment.timeline.now ≤ sooner)
    (idle : moment.timeline.takeDue? sooner = none) :
    Drains clockwork look time (moment.settle sooner moment.ran) seen ran final ↔
      Drains clockwork look time moment seen ran final := by
  have same : (moment.settle sooner moment.ran).timeline.takeDue? time =
      moment.timeline.takeDue? time := Timeline.takeDue?_settled past idle
  constructor
  · intro drains
    cases drains with
    | idle nothing => exact .idle (same ▸ nothing)
    | fire taken worked rest => exact .fire (same ▸ taken) worked rest
  · intro drains
    cases drains with
    | idle nothing => exact .idle (same.trans nothing)
    | fire taken worked rest => exact .fire (same.trans taken) worked rest

/-- A move of the clock to a time is a move to any sooner time followed by one from there. -/
theorem drains_iff_of_le (steady : clockwork.Steady look) (past : moment.timeline.now ≤ sooner)
    (ordered : sooner ≤ time) :
    Drains clockwork look time moment seen ran final ↔
      ∃ middle earlier later first second,
        Drains clockwork look sooner moment earlier first middle ∧
        Drains clockwork look time middle later second final ∧ seen = earlier ++ later ∧
        ran = first + second := by
  constructor
  · intro drains
    -- by induction on the timers: the move is split before the first that is due too late
    induction drains with
    | @idle moment idle =>
        have late := Timeline.takeDue?_eq_none.mp idle
        have nothing : moment.timeline.takeDue? sooner = none :=
          Timeline.takeDue?_eq_none.mpr fun timer waiting =>
            Int.lt_of_le_of_lt ordered (late timer waiting)
        exact ⟨_, [], [], 0, 0, .idle nothing, (drains_settled_iff past nothing).mpr (.idle idle),
          rfl, rfl⟩
    | @fire moment middle final timer timeline earlier later ran taken worked rest hypothesis =>
        cases sooner_taken : moment.timeline.takeDue? sooner with
        | none =>
            exact ⟨_, [], _, 0, _, .idle sooner_taken,
              (drains_settled_iff past sooner_taken).mpr (.fire taken worked rest), rfl,
              (Nat.zero_add _).symm⟩
        | some found =>
            obtain ⟨found, timelineToo⟩ := found
            -- what is due first by the sooner time is due first by the later one too
            have same := Timeline.takeDue?_of_le ordered sooner_taken
            rw [taken] at same
            cases same
            obtain ⟨between, before, after, first, second, drains, again, rfl, rfl⟩ :=
              hypothesis (steady.now_le past sooner_taken worked)
            exact ⟨between, _, after, _, second, .fire sooner_taken worked drains, again,
              (List.append_assoc _ _ _).symm, Nat.add_right_comm _ _ _⟩
  · rintro ⟨middle, earlier, later, first, second, drains, again, rfl, rfl⟩
    induction drains with
    | @idle moment idle =>
        rw [List.nil_append, Nat.zero_add]
        exact (drains_settled_iff past idle).mp again
    | @fire moment middle between timer timeline before after ran taken worked _ hypothesis =>
        have rest := hypothesis (steady.now_le past taken worked) again
        rw [List.append_assoc, Nat.add_right_comm]
        exact .fire (Timeline.takeDue?_of_le ordered taken) worked rest

end Clockwork

end VisualNovel.Clock
