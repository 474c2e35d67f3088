/-!
# Event buses

A bus knows which listeners want the events of which name, and counts the events
of each name. A listener is registered at most once for a name, and listeners hear
an event in the order in which they registered. A name stays known when its last
listener is gone, until everything is cleared.
-/

set_option autoImplicit false

namespace VisualNovel.Event

/-- The listeners for each name and how many events it had. -/
structure Bus (α : Type) where
  listeners : List (String × List α) := []
  counts : List (String × Nat) := []

structure Statistics where
  events : List (String × Nat)
  listeners : List (String × Nat)
  total : Nat
  deriving DecidableEq, Repr

variable {α β : Type}

/-- Changes the entry of a name, which begins with a given value if it is missing. -/
def adjust (name : String) (missing : β) (change : β → β) :
    List (String × β) → List (String × β)
  | [] => [(name, change missing)]
  | (first, value) :: rest =>
      if first = name then (first, change value) :: rest
      else (first, value) :: adjust name missing change rest

namespace Bus

/-- The listeners for a name, in the order in which they registered. -/
def heard (bus : Bus α) (name : String) : List α :=
  (bus.listeners.lookup name).getD []

def subscribe [DecidableEq α] (bus : Bus α) (name : String) (listener : α) : Bus α :=
  { bus with
    listeners :=
      adjust name [] (fun known => if listener ∈ known then known else known ++ [listener])
        bus.listeners }

def unsubscribe [DecidableEq α] (bus : Bus α) (name : String) (listener : α) : Bus α :=
  if listener ∈ bus.heard name then
    { bus with listeners := adjust name [] (fun known => known.erase listener) bus.listeners }
  else bus

def count (bus : Bus α) (name : String) : Bus α :=
  { bus with counts := adjust name 0 (· + 1) bus.counts }

def clear (_ : Bus α) : Bus α := {}

def total (bus : Bus α) : Nat :=
  bus.counts.foldl (fun sum entry => sum + entry.2) 0

def statistics (bus : Bus α) : Statistics where
  events := bus.counts
  listeners := bus.listeners.map fun (name, known) => (name, known.length)
  total := bus.total

end Bus

theorem lookup_adjust_self (name : String) (missing : β) (change : β → β)
    (entries : List (String × β)) :
    List.lookup name (adjust name missing change entries) =
      some (change ((List.lookup name entries).getD missing)) := by
  induction entries with
  | nil => simp [adjust]
  | cons entry rest ih =>
      obtain ⟨first, value⟩ := entry
      by_cases same : first = name
      · simp [adjust, same]
      · have apart : (name == first) = false := by simpa using fun equal => same equal.symm
        simpa [adjust, same, List.lookup_cons, apart] using ih

theorem lookup_adjust_of_ne {name other : String} (different : other ≠ name) (missing : β)
    (change : β → β) (entries : List (String × β)) :
    List.lookup other (adjust name missing change entries) = List.lookup other entries := by
  induction entries with
  | nil =>
      have apart : (other == name) = false := by simpa using different
      simp [adjust, List.lookup_cons, apart]
  | cons entry rest ih =>
      obtain ⟨first, value⟩ := entry
      by_cases same : first = name
      · have apart : (other == first) = false := by simpa [same] using different
        simp [adjust, same, List.lookup_cons, same ▸ apart]
      · cases found : other == first <;> simp [adjust, same, List.lookup_cons, found, ih]

theorem Bus.heard_subscribe_self [DecidableEq α] (bus : Bus α) (name : String) (listener : α) :
    (bus.subscribe name listener).heard name =
      if listener ∈ bus.heard name then bus.heard name else bus.heard name ++ [listener] := by
  simp only [subscribe, heard, lookup_adjust_self, Option.getD_some]
  rfl

end VisualNovel.Event
