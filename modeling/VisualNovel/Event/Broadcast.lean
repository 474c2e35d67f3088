import VisualNovel.Agenda.Basic
import VisualNovel.Agenda.Script
import VisualNovel.Event.Bus

/-!
# Broadcasting

An event goes to the listeners that are registered for its name at that moment,
each with a payload of its own, whatever the listeners do meanwhile: a listener
may register and remove listeners and send events itself. A listener that fails is
reported, and the others hear the event all the same.
-/

set_option autoImplicit false

namespace VisualNovel.Event

open VisualNovel.Agenda

/-- An operation on a bus whose events carry payloads. -/
inductive BusRequest (α π : Type) where
  | subscribe (name : String) (listener : α)
  | unsubscribe (name : String) (listener : α)
  | emit (name : String) (payload : π)
  | clear

abbrev BusScript (α π η : Type) := Script (BusRequest α π) Unit η

/-- A bus with the notes of its listeners and the names of the events on which a listener failed,
the latest first. -/
structure Broadcast (α η : Type) where
  bus : Bus α := {}
  notes : η
  failures : List String := []

inductive BusTask (α π η : Type) where
  | request (made : BusRequest α π)
  | deliver (name : String) (listener : α) (payload : π)
  | script (name : String) (rest : BusScript α π η)

variable {α π η : Type}

namespace Broadcast

/-- Does one task. A payload is a value, so each listener has its own without copying: what one
makes of it reaches the others only through the bus. -/
def step [DecidableEq α] (listens : α → π → BusScript α π η) (task : BusTask α π η)
    (broadcast : Broadcast α η) : Broadcast α η × List (BusTask α π η) :=
  match task with
  | .request (.subscribe name listener) =>
      ({ broadcast with bus := broadcast.bus.subscribe name listener }, [])
  | .request (.unsubscribe name listener) =>
      ({ broadcast with bus := broadcast.bus.unsubscribe name listener }, [])
  | .request (.emit name payload) =>
      ({ broadcast with bus := broadcast.bus.count name },
        (broadcast.bus.heard name).map fun listener => .deliver name listener payload)
  | .request .clear => ({ broadcast with bus := broadcast.bus.clear }, [])
  | .deliver name listener payload => (broadcast, [.script name (listens listener payload)])
  | .script name rest =>
      let (pause, notes) := rest.proceed broadcast.notes
      match pause with
      | .done => ({ broadcast with notes }, [])
      | .failed => ({ broadcast with notes, failures := name :: broadcast.failures }, [])
      | .asks made next => ({ broadcast with notes }, [.request made, .script name (next ())])

def perform? [DecidableEq α] (listens : α → π → BusScript α π η) (budget : Nat)
    (made : BusRequest α π) (broadcast : Broadcast α η) : Option (Broadcast α η) :=
  Agenda.run (step listens) budget [.request made] broadcast

end Broadcast

end VisualNovel.Event
