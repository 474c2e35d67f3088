/-!
# Scripts

A script is what a callback does: it makes requests one after another, each
depending on the answers to those before, and keeps notes in a memory that
outlives it. A script ends in success or in failure.
-/

set_option autoImplicit false

namespace VisualNovel.Agenda

/-- What a callback does, with requests, answers and notes of the given kinds. -/
inductive Script (request answer memory : Type) where
  | done
  | fail
  | note (change : memory → memory) (next : Script request answer memory)
  | recall (next : memory → Script request answer memory)
  | ask (made : request) (next : answer → Script request answer memory)

/-- Where a script pauses: at its end or at a request. -/
inductive Pause (request answer memory : Type) where
  | done
  | failed
  | asks (made : request) (next : answer → Script request answer memory)

variable {request answer memory : Type}

/-- Carries a script on to its next request or to its end, with the notes it makes on the way. -/
def Script.proceed :
    Script request answer memory → memory → Pause request answer memory × memory
  | .done, notes => (.done, notes)
  | .fail, notes => (.failed, notes)
  | .note change next, notes => next.proceed (change notes)
  | .recall next, notes => (next notes).proceed notes
  | .ask made next, notes => (.asks made next, notes)

/-- Carries a script out from beside the world that meets its requests, to its end. The notes are
part of that world. The flag tells whether the script succeeded. -/
def Script.enact {world : Type} (meet : request → world → answer × world)
    (notes : world → memory) (put : world → memory → world) :
    Script request answer memory → world → Bool × world
  | .done, state => (true, state)
  | .fail, state => (false, state)
  | .note change next, state => next.enact meet notes put (put state (change (notes state)))
  | .recall next, state => (next (notes state)).enact meet notes put state
  | .ask made next, state =>
      let (given, state) := meet made state
      (next given).enact meet notes put state

end VisualNovel.Agenda
