/-!
# Timelines

A timeline is a clock with timers. A timer goes off at the time it is due; of
timers due at the same time the one set first goes first. Every timer has a number
of its own by which it can be cancelled. A closed timeline takes no timers: one
set on it counts as cancelled at once.

The timeline keeps the history of the timers that went off, with the reading of
the clock when they did, and of the numbers that were cancelled.
-/

set_option autoImplicit false

namespace VisualNovel.Clock

/-- A timer that has not gone off yet. -/
structure Timer (ρ : Type) where
  due : Int
  number : Nat
  label : String
  payload : ρ

/-- The name of a timer in reports: its label, or its number if that is empty. -/
def Timer.name {ρ : Type} (timer : Timer ρ) : String :=
  if timer.label.isEmpty then toString timer.number else timer.label

/-- A timer that went off, and what the clock showed then. -/
structure Firing where
  due : Int
  number : Nat
  clock : Int
  deriving DecidableEq, Repr

/-- A clock with timers. Those pending are in the order in which they go off. -/
structure Timeline (ρ : Type) where
  now : Int := 0
  issued : Nat := 0
  closed : Bool := false
  pending : List (Timer ρ) := []
  /-- What went off, the latest first. -/
  fired : List Firing := []
  /-- The numbers that were cancelled, the latest first. -/
  cancelled : List Nat := []

variable {ρ : Type}

def Timer.precedes (first second : Timer ρ) : Prop :=
  first.due < second.due ∨ first.due = second.due ∧ first.number < second.number

instance (first second : Timer ρ) : Decidable (first.precedes second) :=
  inferInstanceAs (Decidable (_ ∨ _))

/-- Puts a timer among others before the first that it precedes. -/
def insertTimer (timer : Timer ρ) : List (Timer ρ) → List (Timer ρ)
  | [] => [timer]
  | first :: rest =>
      if timer.precedes first then timer :: first :: rest else first :: insertTimer timer rest

theorem mem_insertTimer {timer other : Timer ρ} {timers : List (Timer ρ)} :
    other ∈ insertTimer timer timers ↔ other = timer ∨ other ∈ timers := by
  induction timers with
  | nil => simp [insertTimer]
  | cons first rest ih =>
      by_cases before : timer.precedes first
      · simp [insertTimer, before]
      · simp only [insertTimer, before, if_false, List.mem_cons, ih]
        grind

namespace Timeline

/-- Sets a timer some time from now; a negative delay counts as none. Gives its number and when
it is due. -/
def later (timeline : Timeline ρ) (delay : Int) (label : String) (payload : ρ) :
    (Nat × Int) × Timeline ρ :=
  let number := timeline.issued
  let due := timeline.now + max 0 delay
  ((number, due),
    if timeline.closed then
      { timeline with issued := number + 1, cancelled := number :: timeline.cancelled }
    else
      { timeline with
        issued := number + 1
        pending := insertTimer ⟨due, number, label, payload⟩ timeline.pending })

/-- Cancels the timer with a number, whatever has become of it. -/
def cancel (timeline : Timeline ρ) (number : Nat) : Timeline ρ :=
  { timeline with
    pending := timeline.pending.filter fun timer => timer.number ≠ number
    cancelled := number :: timeline.cancelled }

def cancelAll (timeline : Timeline ρ) : Timeline ρ :=
  { timeline with
    pending := []
    cancelled := timeline.pending.reverse.map (·.number) ++ timeline.cancelled }

/-- Cancels all pending timers and takes no more. -/
def close (timeline : Timeline ρ) : Timeline ρ :=
  { timeline.cancelAll with closed := true }

def nextDue? (timeline : Timeline ρ) : Option Int :=
  timeline.pending.head?.map (·.due)

def isPending (timeline : Timeline ρ) (number : Nat) : Bool :=
  timeline.pending.any fun timer => timer.number == number

def hasFired (timeline : Timeline ρ) (number : Nat) : Bool :=
  timeline.fired.any fun firing => firing.number == number

def isCancelled (timeline : Timeline ρ) (number : Nat) : Bool :=
  timeline.cancelled.contains number

/-- Takes the next timer if it is due by a time. The clock moves on to when it was due. -/
def takeDue? (timeline : Timeline ρ) (time : Int) : Option (Timer ρ × Timeline ρ) :=
  match timeline.pending with
  | [] => none
  | timer :: rest =>
      if timer.due ≤ time then
        let clock := max timeline.now timer.due
        some (timer,
          { timeline with
            now := clock
            pending := rest
            fired := ⟨timer.due, timer.number, clock⟩ :: timeline.fired })
      else none

end Timeline

end VisualNovel.Clock
