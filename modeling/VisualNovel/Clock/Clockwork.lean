import VisualNovel.Agenda.Basic
import VisualNovel.Clock.Timeline

/-!
# Running a timeline

Moving the clock on makes timers go off one by one, each with the clock at the
time it was due, and each is worked off before the next. What a timer does may set
and cancel timers, close the timeline or move the clock on itself. Running thus is
a matter of jobs on an agenda: those of the clock, given here, and those that the
timers stand for, which are left open.
-/

set_option autoImplicit false

namespace VisualNovel.Clock

/-- A timeline with everything else that there is, and how many timers the last run of timers
made go off. -/
structure Moment (ρ σ : Type) where
  timeline : Timeline ρ
  ran : Nat := 0
  world : σ

/-- Something to be done. -/
inductive Job (τ : Type) where
  /-- A task of the world. -/
  | work (task : τ)
  /-- Moving the clock on to a time, or leaving it if that has passed. -/
  | update (time : Int)
  /-- Making the next timer go off that is due by a time, after the given number. -/
  | drain (time : Int) (ran : Nat)
  /-- What follows when such a timer has been worked off. -/
  | drained (time : Int) (ran : Nat)
  /-- Moving the clock on from timer to timer until none is left or as many as a limit went
  off. -/
  | flush (limit : Int) (ran : Nat)
  /-- What follows when the timers due at one time have been worked off. -/
  | flushed (limit : Int) (ran : Nat)

variable {ρ σ τ : Type}

/-- What the timers of a world start, and what its tasks do. -/
structure Clockwork (ρ σ τ : Type) where
  start : Timer ρ → List τ
  act : τ → Moment ρ σ → Moment ρ σ × List (Job τ)

def Moment.settle (moment : Moment ρ σ) (time : Int) (ran : Nat) : Moment ρ σ :=
  { moment with timeline := { moment.timeline with now := time }, ran }

/-- Does one job. The jobs it gives are to be done next. -/
def Clockwork.step (clockwork : Clockwork ρ σ τ) (job : Job τ) (moment : Moment ρ σ) :
    Moment ρ σ × List (Job τ) :=
  match job with
  | .work task => clockwork.act task moment
  | .update time =>
      if moment.timeline.closed then ({ moment with ran := 0 }, [])
      else (moment, [.drain (max moment.timeline.now time) 0])
  | .drain time ran =>
      match moment.timeline.takeDue? time with
      | none => (moment.settle time ran, [])
      | some (timer, timeline) =>
          ({ moment with timeline },
            (clockwork.start timer).map .work ++ [.drained time (ran + 1)])
  | .drained time ran =>
      if moment.timeline.closed then (moment.settle time ran, [])
      else (moment, [.drain time ran])
  | .flush limit ran =>
      if moment.timeline.closed || decide (limit ≤ ran) then ({ moment with ran }, [])
      else
        match moment.timeline.nextDue? with
        | none => ({ moment with ran }, [])
        | some due => (moment, [.update due, .flushed limit ran])
  | .flushed limit ran => (moment, [.flush limit (ran + moment.ran)])

def Clockwork.run (clockwork : Clockwork ρ σ τ) (budget : Nat) (jobs : List (Job τ))
    (moment : Moment ρ σ) : Option (Moment ρ σ) :=
  Agenda.run clockwork.step budget jobs moment

def flushLimit : Int := 100000

end VisualNovel.Clock
