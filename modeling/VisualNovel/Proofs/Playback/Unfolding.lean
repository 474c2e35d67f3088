import VisualNovel.Proofs.Playback.Standing

/-!
# Sessions in the midst of what they do

Callbacks may ask anything of a session while it is in the midst of something
else. A moment of a session is what is left to be done and the state it is in; it
unfolds job by job, and when nothing is left the host may ask for something or
register a callback. Runs can be kept to moments where what is taken up is
admitted.
-/

set_option autoImplicit false

namespace VisualNovel.Playback

open VisualNovel.Agenda VisualNovel.Clock VisualNovel.Event VisualNovel.Novel VisualNovel.Sound

variable {β κ η : Type}

namespace Session

/-- What may be taken up, given what would be left and the session. -/
abbrev Admission (β κ η : Type) :=
  Job (Task κ η) → List (Job (Task κ η)) → Session β κ η → Bool

def freely : Admission β κ η :=
  fun _ _ _ => true

variable [Device β] [DecidableEq κ]

/-- The moments that come of one. -/
inductive Unfolds (callbacks : Callbacks κ η) (admits : Admission β κ η)
    (left : List (Job (Task κ η))) (first : Session β κ η) :
    List (Job (Task κ η)) → Session β κ η → Prop where
  | refl : Unfolds callbacks admits left first left first
  | works {job : Job (Task κ η)} {rest : List (Job (Task κ η))} {session : Session β κ η} :
      Unfolds callbacks admits left first (job :: rest) session →
      admits job rest session = true →
      Unfolds callbacks admits left first (((clockwork callbacks).step job session).2 ++ rest)
        ((clockwork callbacks).step job session).1
  | asks {session : Session β κ η} (made : Request κ) :
      Unfolds callbacks admits left first [] session →
      Unfolds callbacks admits left first [.work (.request made)] session
  | listens {session : Session β κ η} (name : String) (cue : κ) :
      Unfolds callbacks admits left first [] session →
      Unfolds callbacks admits left first [] (session.listen name cue)

variable {callbacks : Callbacks κ η} {admits : Admission β κ η}
  {left jobs tasks rest : List (Job (Task κ η))} {first session final : Session β κ η}

theorem Unfolds.invariant (unfolds : Unfolds callbacks admits left first jobs session)
    (holds : Session β κ η → Prop) (start : holds first)
    (steps : ∀ job session, holds session → holds ((clockwork callbacks).step job session).1)
    (listens : ∀ session name cue, holds session → holds (session.listen name cue)) :
    holds session := by
  induction unfolds with
  | refl => exact start
  | works _ _ hypothesis => exact steps _ _ hypothesis
  | asks _ _ hypothesis => exact hypothesis
  | listens name cue _ hypothesis => exact listens _ name cue hypothesis

/-- What is done to its end leads to the moment when the rest is taken up. -/
theorem Unfolds.completes {look : Job (Task κ η) → Session β κ η → List Sight} {seen : List Sight}
    (unfolds : Unfolds callbacks freely left first (tasks ++ rest) session)
    (completes : Completes look (clockwork callbacks).step tasks session seen final) :
    Unfolds callbacks freely left first rest final := by
  induction completes with
  | nil => exact unfolds
  | cons _ hypothesis =>
      apply hypothesis
      rw [List.append_assoc]
      exact unfolds.works rfl

def takeUp? (callbacks : Callbacks κ η) (admits : Admission β κ η) :
    Nat → List (Job (Task κ η)) → Session β κ η →
      Option (List (Job (Task κ η)) × Session β κ η)
  | 0, jobs, session => some (jobs, session)
  | _ + 1, [], _ => none
  | count + 1, job :: rest, session =>
      if admits job rest session then
        takeUp? callbacks admits count (((clockwork callbacks).step job session).2 ++ rest)
          ((clockwork callbacks).step job session).1
      else none

theorem Unfolds.of_takeUp? {before : List (Job (Task κ η))} {count : Nat}
    (unfolds : Unfolds callbacks admits left first before session)
    (found : takeUp? callbacks admits count before session = some (jobs, final)) :
    Unfolds callbacks admits left first jobs final := by
  induction count generalizing before session with
  | zero =>
      obtain ⟨rfl, rfl⟩ := Prod.mk.inj (Option.some.inj found)
      exact unfolds
  | succ count hypothesis =>
      cases before with
      | nil => contradiction
      | cons job rest =>
          unfold takeUp? at found
          split at found
          · next admitted => exact hypothesis (unfolds.works admitted) found
          · contradiction

def takeTurns? (callbacks : Callbacks κ η) :
    List (Request κ × Nat) → Session β κ η → Option (Session β κ η)
  | [], session => some session
  | (made, count) :: turns, session =>
      match takeUp? callbacks freely count [.work (.request made)] session with
      | some ([], session) => takeTurns? callbacks turns session
      | _ => none

theorem Unfolds.of_takeTurns? {turns : List (Request κ × Nat)}
    (unfolds : Unfolds callbacks freely left first [] session)
    (found : takeTurns? callbacks turns session = some final) :
    Unfolds callbacks freely left first [] final := by
  induction turns generalizing session with
  | nil =>
      obtain rfl := Option.some.inj found
      exact unfolds
  | cons turn turns hypothesis =>
      obtain ⟨made, count⟩ := turn
      unfold takeTurns? at found
      split at found
      · next between taken => exact hypothesis ((unfolds.asks made).of_takeUp? taken) found
      · contradiction

end Session

namespace Sample

def asking (made : Request String) : Callbacks String Unit where
  hears _ _ := .ask made fun _ => .done
  rings _ := .done

def serenade : Novel where
  id := "serenade"
  scenes := [
    { id := "quay", bgmUrl := some "waves.ogg"
      dialogues := [{ id := "hail", text := "Ahoy!", voiceUrl := some "ahoy.ogg" }] }]

end Sample

end VisualNovel.Playback
