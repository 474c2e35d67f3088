import VisualNovel.Sound.Desk

/-!
# Rehearsals

A device without sound: clips keep their state and nothing is heard. A rule may
make it refuse what it is asked, depending on how much it was asked before.
-/

set_option autoImplicit false

namespace VisualNovel.Sound

/-- A device without sound, with the number of things asked of it and the reason for refusing an
action. -/
structure Rehearsal where
  asked : Nat := 0
  refusal : Nat → Action → Option String

namespace Rehearsal

def willing : Rehearsal where
  refusal _ _ := none

def consider (rehearsal : Rehearsal) (action : Action) : Option String × Rehearsal :=
  (rehearsal.refusal rehearsal.asked action, { rehearsal with asked := rehearsal.asked + 1 })

instance : Device Rehearsal where
  openClip clip rehearsal :=
    match rehearsal.consider (.openClip clip.track) with
    | (none, rehearsal) => (.ok clip, rehearsal)
    | (some reason, rehearsal) => (.error reason, rehearsal)
  order order clip rehearsal :=
    match rehearsal.consider (.order clip.track order) with
    | (none, rehearsal) => ⟨none, clip.obey order, rehearsal⟩
    | (some reason, rehearsal) => ⟨some reason, clip, rehearsal⟩
  shutDown rehearsal := rehearsal.consider .shutDown

end Rehearsal

end VisualNovel.Sound
