/-!
# Revealing a text

A text is revealed from its first character on, some characters at a time, until
it is complete. A text that is complete changes no more.
-/

set_option autoImplicit false

namespace VisualNovel.Playback

structure Reveal where
  text : String := ""
  revealed : Nat := 0
  complete : Bool := true
  deriving DecidableEq, Repr

namespace Reveal

/-- A text of which nothing is revealed yet. An empty text is complete. -/
def ofText (text : String) : Reveal :=
  ⟨text, 0, text.isEmpty⟩

def total (reveal : Reveal) : Nat :=
  reveal.text.length

def visible (reveal : Reveal) : String :=
  String.ofList (reveal.text.toList.take reveal.revealed)

/-- Reveals some more characters, at least one. -/
def step (reveal : Reveal) (count : Int) : Reveal :=
  if reveal.complete then reveal
  else
    let revealed := min reveal.total (reveal.revealed + (max 1 count).toNat)
    { reveal with revealed, complete := decide (reveal.total ≤ revealed) }

def all (reveal : Reveal) : Reveal :=
  { reveal with revealed := reveal.total, complete := true }

theorem revealed_step_le_total {reveal : Reveal} (count : Int)
    (within : reveal.revealed ≤ reveal.total) :
    (reveal.step count).revealed ≤ (reveal.step count).total := by
  unfold step
  split
  · exact within
  · exact Nat.min_le_left ..

end Reveal

end VisualNovel.Playback
