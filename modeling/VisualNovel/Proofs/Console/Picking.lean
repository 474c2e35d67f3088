import VisualNovel.Console.Plan
import VisualNovel.Proofs.Console.Recital
import VisualNovel.Proofs.Playback.Menus
import VisualNovel.Proofs.Playback.Rundown

/-!
# Picking an entry on a console

The number of an entry stands for the entry, and so does the place of the first
entry that leads anywhere where no input is taken. Both are handed on as the
identifier of the entry, which is followed unless an earlier one has it too.
-/

set_option autoImplicit false

namespace VisualNovel.Console

open VisualNovel.Agenda VisualNovel.Clock VisualNovel.Novel VisualNovel.Numeric
open VisualNovel.Playback VisualNovel.Playback.Session VisualNovel.Text

namespace Playthrough

/-- The playthroughs at the beginning of a turn, whatever is put in at the turns before. -/
inductive Comes (novel : Novel) (preferences : Preferences) : Playthrough → Prop where
  | start : Comes novel preferences (start novel preferences)
  | alone {playthrough next : Playthrough} {printed : List Printed} :
      Comes novel preferences playthrough →
      goOn (look playthrough).1 (look playthrough).2.2 = .goesOn printed next →
      Comes novel preferences next
  | along {playthrough next : Playthrough} {printed : List Printed} (input : String) :
      Comes novel preferences playthrough →
      obey (look playthrough).1 input (look playthrough).2.2 = .goesOn printed next →
      Comes novel preferences next

variable {novel : Novel} {preferences : Preferences} {playthrough next : Playthrough}
  {made : Request Cue} {index target : Nat} {choice : Choice}

/-- A playthrough that everybody still listens to, and that has started if it could. -/
structure Attended (novel : Novel) (playthrough : Playthrough) : Prop where
  listening : playthrough.world.bus.listeners = directory
  stands : ∃ seen, playthrough.Stands seen
  known : playthrough.world.novel = novel
  started : novel.scenes ≠ [] → playthrough.world.started = true

/-- Whatever the player is asked for, everybody still listens. -/
theorem Attended.perform (attended : Attended novel playthrough) (plays : made.Plays) :
    Attended novel (perform made playthrough).2 := by
  unfold Playthrough.perform
  cases performed : Session.perform? callbacks budget made playthrough with
  | none => exact attended
  | some outcome =>
      obtain ⟨answer, after⟩ := outcome
      obtain ⟨seen, stands⟩ := attended.stands
      have performs : Performs callbacks playthrough made _ answer after := ⟨_, performed, rfl⟩
      obtain ⟨same, standsAfter⟩ := stands.turn callbacks_quiet (.inl plays) performs
      obtain ⟨listening, _⟩ := stands.audience callbacks_quiet hears_callbacks plays performs
        ⟨attended.listening, rfl⟩
      have novelAfter := (stands.constant callbacks_quiet (.inl plays) performs).1
      refine ⟨listening, ⟨_, standsAfter⟩, novelAfter.trans attended.known, fun nonempty => ?_⟩
      obtain ⟨_, _, coherent, rested⟩ := stands.coherent (attended.started nonempty)
      obtain ⟨_, _, coherentAfter, _⟩ := coherent.comes rested made
      rw [← same] at coherentAfter
      exact coherentAfter.started

theorem Attended.toggleMute (attended : Attended novel playthrough) :
    Attended novel (Playthrough.perform .toggleMute playthrough).2 := by
  obtain ⟨seen, stands⟩ := attended.stands
  have quiet : Request.Quiet (.toggleMute : Request Cue) := trivial
  obtain ⟨same, nothing⟩ := begin_quiet playthrough quiet
  have toggled : (Playthrough.perform .toggleMute playthrough).2 =
      (begin playthrough .toggleMute).1 := rfl
  rw [toggled]
  refine ⟨?_, ⟨seen, same.closed.trans stands.isOpen, same.stopped.trans stands.playing, ?_⟩,
    ?_, ?_⟩
  · have bus : (begin playthrough .toggleMute).1.world.bus = playthrough.world.bus := by
      simp only [begin]
      split <;> rfl
    rw [bus]
    exact attended.listening
  · rw [same.player_eq seen]
    exact stands.resting
  · exact (congrArg Player.novel same.player).trans attended.known
  · exact fun nonempty => (congrArg Player.started same.player).trans (attended.started nonempty)

private theorem attended_start (novel : Novel) (preferences : Preferences) :
    Attended novel (Playthrough.start novel preferences) := by
  by_cases nonempty : novel.scenes = []
  · have opened : Attended novel (opened novel preferences) :=
      ⟨rfl, ⟨[], (fresh_opened novel preferences).stands⟩, rfl, fun some => absurd nonempty some⟩
    exact opened.perform trivial
  · obtain ⟨portrays, bound, _⟩ := nearing_start nonempty preferences
    obtain ⟨⟨isOpen, playing, seen, rfl⟩, listening⟩ := portrays
    exact ⟨listening, ⟨seen, isOpen, playing, .coherent bound.coherent bound.rested⟩, bound.novel,
      fun _ => bound.coherent.started⟩

theorem Attended.look (attended : Attended novel playthrough) :
    Attended novel (look playthrough).2.2 := by
  have plays : Request.Plays (.flush flushLimit : Request Cue) := trivial
  obtain ⟨listening, ⟨seen, isOpen, playing, resting⟩, known, started⟩ := attended.perform plays
  exact ⟨listening, ⟨seen, isOpen, playing, resting⟩, known, started⟩

theorem Attended.goOn (attended : Attended novel playthrough) {frame : Frame}
    {printed : List Printed} (goes : Playthrough.goOn frame playthrough = .goesOn printed next) :
    Attended novel next := by
  unfold Playthrough.goOn at goes
  split at goes
  · split at goes
    · contradiction
    · cases goes
      exact attended.perform trivial
  · cases goes
    exact attended.perform trivial

theorem Attended.pick (attended : Attended novel playthrough) {frame : Frame} {number : Int}
    {printed : List Printed}
    (goes : Playthrough.pick frame number playthrough = .goesOn printed next) :
    Attended novel next := by
  unfold Playthrough.pick at goes
  split at goes
  · cases goes
    exact attended
  · next choice _ =>
      have plays : Request.Plays (.choose choice.id : Request Cue) := trivial
      have chosen := attended.perform plays
      generalize Playthrough.perform (.choose choice.id) playthrough = outcome at goes chosen
      split at goes <;> (cases goes; exact chosen)

/-- After a turn that goes on everybody still listens. -/
theorem Attended.obey (attended : Attended novel playthrough) {frame : Frame} {input : String}
    {printed : List Printed}
    (goes : Playthrough.obey frame input playthrough = .goesOn printed next) :
    Attended novel next := by
  have toggled := attended.toggleMute
  unfold Playthrough.obey at goes
  generalize Playthrough.perform .toggleMute playthrough = outcome at goes toggled
  dsimp only at goes
  split at goes
  · cases goes
  split at goes
  · split at goes
    · exact attended.pick goes
    · cases goes
  split at goes
  · split at goes <;> (cases goes; exact toggled)
  · cases goes
    exact attended.perform trivial

theorem Comes.attended (comes : Comes novel preferences playthrough) :
    Attended novel playthrough := by
  induction comes with
  | start => exact attended_start novel preferences
  | alone _ goes hypothesis => exact hypothesis.look.goOn goes
  | along input _ goes hypothesis => exact hypothesis.look.obey goes

def Picks (playthrough : Playthrough) (choice : Choice) (target : Nat) (next : Playthrough) :
    Prop :=
  ∃ sights, Performs callbacks playthrough (.choose choice.id) sights (.flag true) next ∧
    Embarks playthrough choice target sights

theorem Attended.inPlay (attended : Attended novel playthrough)
    (shown : playthrough.world.frame.showChoices = true) :
    Session.inPlay playthrough = true := by
  obtain ⟨_, isOpen, playing, _⟩ := attended.stands
  refine inPlay_iff.mpr ⟨isOpen, playing, attended.started ?_⟩
  -- where a menu is shown there is a scene
  intro empty
  obtain ⟨_, line, _⟩ := Stage.exists_line shown
  obtain ⟨scene, here, _⟩ := exists_scene_of_dialogueAt? line
  have member := List.mem_of_getElem? (getElem?_of_itemAt? here)
  rw [attended.known, empty] at member
  exact List.not_mem_nil member

/-- The budget suffices for an entry that is offered. -/
theorem Attended.choose (attended : Attended novel playthrough)
    (offers : Offers playthrough index choice target) :
    ∃ next, Playthrough.perform (.choose choice.id) playthrough = (.flag true, next) ∧
      Picks playthrough choice target next := by
  obtain ⟨sights, answer, next, performs⟩ := offers.performs callbacks_quiet
  obtain ⟨rfl, follows⟩ := offers.follows performs
  have playing := attended.inPlay offers.shown
  rw [playing] at performs
  have begun : begin playthrough (.choose choice.id) =
      jobs (whenOpen playthrough (Session.choose playthrough choice.id)) := rfl
  have finishes := terse.request (by decide) begun
    (modest_whenOpen (modest_choose playthrough choice.id) (by decide)) attended.listening
  refine ⟨next, ?_, sights, performs, follows playing⟩
  unfold Playthrough.perform
  rw [finishes.performs (by decide) performs]
  rfl

private theorem Attended.obey_number (attended : Attended novel playthrough)
    (offers : Offers playthrough index choice target) {input : String}
    (digits : isDigits (wordForm input) = true)
    (number : readInteger (wordForm input) = .ok (index + 1)) :
    ∃ next, Playthrough.obey playthrough.world.frame input playthrough = .goesOn [] next ∧
      Picks playthrough choice target next := by
  obtain ⟨next, performed, picks⟩ := attended.choose offers
  refine ⟨next, ?_, picks⟩
  have noQuit : wordForm input ≠ "q" := by
    intro quit
    rw [quit] at digits
    exact absurd digits (by decide)
  have listed : itemAt? playthrough.world.frame.choices ((index : Int) + 1 - 1) = some choice := by
    rw [Int.add_sub_cancel, itemAt?_natCast]
    exact offers.listed
  unfold Playthrough.obey Playthrough.pick
  rw [if_neg noQuit, digits, offers.shown, if_pos (Bool.and_self true), number]
  dsimp only
  rw [listed]
  dsimp only
  rw [performed]

private theorem Attended.goOn_first (attended : Attended novel playthrough)
    (offers : Offers playthrough index choice target)
    (first : ∀ earlier ∈ playthrough.world.frame.choices.take index,
      playthrough.world.novel.sceneIndex? earlier.targetSceneId = none) :
    ∃ next, Playthrough.goOn playthrough.world.frame playthrough = .goesOn [] next ∧
      Picks playthrough choice target next := by
  obtain ⟨next, performed, picks⟩ := attended.choose offers
  refine ⟨next, ?_, picks⟩
  have found : firstOpenChoice? playthrough.world.novel playthrough.world.frame = some choice := by
    refine find?_of_first offers.listed (Option.isSome_of_mem offers.leads) ?_
    intro earlier member
    rw [first earlier member]
    rfl
  unfold Playthrough.goOn
  rw [if_pos offers.shown, found]
  dsimp only
  rw [performed]

end Playthrough

open Playthrough

variable {β κ η : Type} [Sound.Device β] [DecidableEq κ]

/-- An entry of a menu that no earlier one shares its identifier with is followed when it is asked
for, in whatever state a session is. On a console this is what its number does, and what is done
without input where no earlier entry leads anywhere. -/
theorem heeds_entry (callbacks : Callbacks κ η) :
    (∀ (session : Session β κ η) (index : Nat) (choice : Choice) (target : Nat),
      session.Offers index choice target → session.Heeds callbacks choice target) ∧
    ∀ novel preferences playthrough, Comes novel preferences playthrough →
      (look playthrough).1 = (look playthrough).2.2.world.frame ∧
      ∀ index choice target, Offers (look playthrough).2.2 index choice target →
        (∀ input, isDigits (wordForm input) = true →
          readInteger (wordForm input) = .ok ((index : Int) + 1) →
          ∃ next, obey (look playthrough).1 input (look playthrough).2.2 = .goesOn [] next ∧
            Picks (look playthrough).2.2 choice target next) ∧
        ((∀ earlier ∈ (look playthrough).1.choices.take index,
            novel.sceneIndex? earlier.targetSceneId = none) →
          ∃ next, goOn (look playthrough).1 (look playthrough).2.2 = .goesOn [] next ∧
            Picks (look playthrough).2.2 choice target next) := by
  refine ⟨fun _ _ _ _ offers => offers.heeds, ?_⟩
  intro novel preferences playthrough comes
  have attended := comes.attended.look
  have same : (look playthrough).1 = (look playthrough).2.2.world.frame := rfl
  refine ⟨same, fun index choice target offers => ⟨?_, ?_⟩⟩
  · intro input digits number
    rw [same]
    exact attended.obey_number offers digits number
  · intro first
    rw [same] at first ⊢
    rw [← attended.known] at first
    exact attended.goOn_first offers first

theorem heeds_entry_at_crossroads :
    ∃ playthrough choice next, Comes Sample.crossroads {} playthrough ∧
      Offers (look playthrough).2.2 2 choice 0 ∧ Session.inPlay (look playthrough).2.2 = true ∧
      Heeds Playthrough.callbacks (look playthrough).2.2 choice 0 ∧
      isDigits (wordForm " 3 ") = true ∧ readInteger (wordForm " 3 ") = .ok 3 ∧
      obey (look playthrough).1 " 3 " (look playthrough).2.2 = .goesOn [] next ∧
      Picks (look playthrough).2.2 choice 0 next := by
  have comes : Comes Sample.crossroads {} (start Sample.crossroads {}) := .start
  have playing : Session.inPlay (look (start Sample.crossroads {})).2.2 = true := by
    decide +kernel
  have offers : Offers (look (start Sample.crossroads {})).2.2 2 ⟨"rest", "Rest", "fork"⟩ 0 :=
    ⟨by decide +kernel, by decide +kernel, by decide +kernel, by decide +kernel⟩
  have digits : isDigits (wordForm " 3 ") = true := by decide +kernel
  have number : readInteger (wordForm " 3 ") = .ok 3 := by rfl
  obtain ⟨heeds, picks⟩ := heeds_entry (β := Sound.Rehearsal) Playthrough.callbacks
  obtain ⟨next, goes, picked⟩ := ((picks _ _ _ comes).2 2 _ 0 offers).1 " 3 " digits number
  exact ⟨_, _, next, comes, offers, playing, heeds _ 2 _ 0 offers, digits, number, goes, picked⟩

/-- An entry that shares its identifier with an earlier one, which leads nowhere, is refused where
it is shown: by a session, on a console by its number, and at every turn without input. -/
theorem other_entry_asked_for :
    (Novel.ofValue Sample.signpost).1 = .ok Sample.crossroads ∧
      (∃ turns session after,
        History Sample.nobody (Session.new Sample.crossroads {} Sound.Rehearsal.willing 0 ())
          turns session ∧
        session.world.frame.showChoices = true ∧
        session.world.frame.choices[1]? = some ⟨"go", "Ferry", "ferry"⟩ ∧
        session.world.novel.sceneIndex? "ferry" = some 1 ∧
        Performs Sample.nobody session (.choose "go") [] (.flag false) after) ∧
      (recite Sample.crossroads {} false none ["2"]).printed =
        ["== fork ==", "Narrator: Whither?", "  1. Inn", "  2. Ferry", "  3. Rest"].map .line ++
          [.prompt, .line "(that choice is unavailable)", .prompt] ∧
      (recite Sample.crossroads {} true (some (.value 3)) []).printed =
        ["== fork ==", "Narrator: Whither?", "  1. Inn", "  2. Ferry", "  3. Rest"].map .line := by
  refine ⟨rfl, ?_, ?_, ?_⟩
  · obtain ⟨turns, session, after, ran, shown, listed, leads, performs⟩ :
        ∃ turns session after,
          run? Sample.nobody 100
              (Session.new Sample.crossroads {} Sound.Rehearsal.willing 0 ())
              [.start, .skipTyping] = some (turns, session) ∧
            session.world.frame.showChoices = true ∧
            session.world.frame.choices[1]? = some ⟨"go", "Ferry", "ferry"⟩ ∧
            session.world.novel.sceneIndex? "ferry" = some 1 ∧
            Performs Sample.nobody session (.choose "go") [] (.flag false) after :=
      ⟨_, _, _, rfl, rfl, rfl, rfl, ⟨100, rfl, rfl⟩⟩
    exact ⟨turns, session, after, history_of_run? (by simp [Request.Plays]) ran, shown, listed,
      leads, performs⟩
  · decide +kernel
  · decide +kernel

end VisualNovel.Console
