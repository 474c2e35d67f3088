import VisualNovel.Agenda.Script
import VisualNovel.Clock.Clockwork

/-!
# Schedules

A schedule is a timeline whose timers stand for callbacks. A table gives the
script of each callback; its requests are operations of the schedule itself. A
callback that fails is reported and counts as any other.
-/

set_option autoImplicit false

namespace VisualNovel.Clock

open VisualNovel.Agenda

/-- An operation of a schedule. Timers name their callback by a cue. -/
inductive ScheduleRequest (κ : Type) where
  | later (delay : Int) (label : String) (cue : κ)
  | cancel (number : Nat)
  | cancelAll
  | close
  | update (time : Int)
  | flush (limit : Int)
  | now
  | nextDue
  | isClosed

inductive ScheduleAnswer where
  | nothing
  | timer (number : Nat) (due : Int)
  | count (ran : Nat)
  | time (reading : Option Int)
  | flag (value : Bool)
  deriving DecidableEq, Repr

abbrev ScheduleScript (κ η : Type) := Script (ScheduleRequest κ) ScheduleAnswer η

/-- What there is besides the timeline: the notes of the callbacks, the last answer, and the
names of the timers whose callback failed, the latest first. -/
structure ScheduleWorld (η : Type) where
  notes : η
  answer : ScheduleAnswer := .nothing
  failures : List String := []

abbrev Schedule (κ η : Type) := Moment κ (ScheduleWorld η)

inductive ScheduleTask (κ η : Type) where
  | request (made : ScheduleRequest κ)
  | count
  | script (timer : String) (rest : ScheduleScript κ η)
  | resume (timer : String) (next : ScheduleAnswer → ScheduleScript κ η)

variable {κ η : Type}

namespace Schedule

def reply (schedule : Schedule κ η) (answer : ScheduleAnswer) : Schedule κ η :=
  { schedule with world := { schedule.world with answer } }

/-- Begins an operation. Moving the clock takes further jobs, all else is done at once. -/
def begin (schedule : Schedule κ η) :
    ScheduleRequest κ → Schedule κ η × List (Job (ScheduleTask κ η))
  | .later delay label cue =>
      let ((number, due), timeline) := schedule.timeline.later delay label cue
      (reply { schedule with timeline } (.timer number due), [])
  | .cancel number =>
      (reply { schedule with timeline := schedule.timeline.cancel number } .nothing, [])
  | .cancelAll => (reply { schedule with timeline := schedule.timeline.cancelAll } .nothing, [])
  | .close => (reply { schedule with timeline := schedule.timeline.close } .nothing, [])
  | .update time => (schedule, [.update time, .work .count])
  | .flush limit => (schedule, [.flush limit 0, .work .count])
  | .now => (reply schedule (.time (some schedule.timeline.now)), [])
  | .nextDue => (reply schedule (.time schedule.timeline.nextDue?), [])
  | .isClosed => (reply schedule (.flag schedule.timeline.closed), [])

def act (task : ScheduleTask κ η) (schedule : Schedule κ η) :
    Schedule κ η × List (Job (ScheduleTask κ η)) :=
  match task with
  | .request made => begin schedule made
  | .count => (reply schedule (.count schedule.ran), [])
  | .script timer rest =>
      let (pause, notes) := rest.proceed schedule.world.notes
      let world := { schedule.world with notes }
      match pause with
      | .done => ({ schedule with world }, [])
      | .failed =>
          ({ schedule with world := { world with failures := timer :: world.failures } }, [])
      | .asks made next =>
          ({ schedule with world }, [.work (.request made), .work (.resume timer next)])
  | .resume timer next => (schedule, [.work (.script timer (next schedule.world.answer))])

def clockwork (callbacks : κ → ScheduleScript κ η) :
    Clockwork κ (ScheduleWorld η) (ScheduleTask κ η) where
  start timer := [.script timer.name (callbacks timer.payload)]
  act := act

def new (now : Int) (notes : η) : Schedule κ η where
  timeline := { now }
  world := { notes }

def perform? (callbacks : κ → ScheduleScript κ η) (budget : Nat) (made : ScheduleRequest κ)
    (schedule : Schedule κ η) : Option (ScheduleAnswer × Schedule κ η) :=
  ((clockwork callbacks).run budget [.work (.request made)] schedule).map fun schedule =>
    (schedule.world.answer, schedule)

end Schedule

end VisualNovel.Clock
