import VisualNovel.Novel.Vocabulary

/-!
# Timing of transitions

A transition has two phases: after the first the new scene is in place, after the
second what covered the change is gone. A table gives both for every style; a
style that the table lacks, like a scene without a style, has default timings.
-/

set_option autoImplicit false

namespace VisualNovel.Playback

open VisualNovel.Novel

/-- The lengths of the two phases in milliseconds. -/
structure Timing where
  commit : Int
  clear : Int
  deriving DecidableEq, Repr

def Timing.total (timing : Timing) : Int :=
  timing.commit + timing.clear

/-- Whether neither phase takes any time. -/
def Timing.isImmediate (timing : Timing) : Bool :=
  decide (timing.commit ≤ 0) && decide (timing.clear ≤ 0)

def defaultTiming : Timing := ⟨500, 100⟩

abbrev TimingTable := List (Transition × Timing)

def defaultTimings : TimingTable :=
  [(.fade, ⟨500, 100⟩), (.flash, ⟨500, 100⟩), (.slide, ⟨300, 100⟩), (.zoom, ⟨300, 100⟩),
    (.none, ⟨0, 0⟩)]

/-- The timing for a style, of fading if there is none. -/
def TimingTable.timingFor (table : TimingTable) (style : Option Transition) : Timing :=
  (List.lookup (style.getD .fade) table).getD defaultTiming

def TimingTable.set (table : TimingTable) (style : Transition) (timing : Timing) : TimingTable :=
  match table with
  | [] => [(style, timing)]
  | (first, old) :: rest =>
      if first = style then (style, timing) :: rest
      else (first, old) :: TimingTable.set rest style timing

def TimingTable.drop (table : TimingTable) (style : Transition) : TimingTable :=
  table.filter fun entry => entry.1 ≠ style

theorem TimingTable.lookup_set_self (table : TimingTable) (style : Transition) (timing : Timing) :
    List.lookup style (table.set style timing) = some timing := by
  induction table with
  | nil => simp [TimingTable.set]
  | cons entry rest ih =>
      obtain ⟨first, old⟩ := entry
      by_cases same : first = style
      · simp [TimingTable.set, same]
      · have apart : (style == first) = false := by simpa using fun equal => same equal.symm
        simp only [TimingTable.set, same, if_false, List.lookup_cons, apart]
        exact ih

end VisualNovel.Playback
