import VisualNovel.Proofs.Playback.Following
import VisualNovel.Proofs.Playback.Soundtrack

/-!
# The clips of a run

How many clips a session opens in its course, and when it stops each, is told by its
events alone. Music goes on over scenes that have it in common, whatever lies between
them; the sound of a line is played anew with every line and never outlives it.
-/

set_option autoImplicit false

namespace VisualNovel.Playback

open VisualNovel.Agenda VisualNovel.Clock VisualNovel.Event VisualNovel.Novel VisualNovel.Sound
open Coordinator (Call)

variable {β κ η : Type}

def Event.music? : Event → Option (Option String)
  | .sceneEnter _ scene => some (scene.bind (·.bgmUrl))
  | _ => none

def Event.line? (channel : Channel) : Event → Option String
  | .dialogueEnter _ _ dialogue =>
      match channel with
      | .music => none
      | .voice => dialogue.voiceUrl
      | .sfx => dialogue.sfxUrl
  | _ => none

namespace Session

def asked (session : Session β κ η) : List Action :=
  session.world.sound.desk.journal.reverse

/-- The clips of a session are those that its events tell of. -/
structure Scored [Device β] (first : Coordinator β) (session : Session β κ η) : Prop where
  /-- Scenes in a row that have their music in common share one clip. -/
  music : openings .music session.asked = blocks (session.told.filterMap Event.music?)
  /-- No two lines share a clip. -/
  lines (channel : Channel) : channel ≠ .music →
    openings channel session.asked = session.told.filterMap (Event.line? channel)
  /-- Each clip is stopped on the first of the events that end it, or on closing. -/
  clips : ∃ calls : List Call,
    calls.filter Call.isPlaced = session.told.filterMap Event.call? ++
        (if session.world.closed then [.close] else []) ∧
      (first.trace calls).flatMap (·.2) = session.asked ∧
      Coordinator.Timely (first.trace calls)

variable {session : Session β κ η} {calls ending : List Call}

private theorem filterMap_placed {α : Type} {part : Call → Option α}
    (placed : calls.filter Call.isPlaced = session.told.filterMap Event.call? ++ ending)
    (aside : ∀ call : Call, call.isPlaced = false → part call = none)
    (last : ending.filterMap part = []) :
    calls.filterMap part = session.told.filterMap fun event => event.call?.bind part := by
  have kept : calls.filterMap part = (calls.filter Call.isPlaced).filterMap part := by
    rw [List.filterMap_filter]
    congr 1
    funext call
    cases called : call.isPlaced with
    | true => rfl
    | false => exact aside call called
  rw [kept, placed, List.filterMap_append, List.filterMap_filterMap, last, List.append_nil]

private theorem referenced_placed
    (placed : calls.filter Call.isPlaced = session.told.filterMap Event.call? ++ ending)
    (told : ∀ event ∈ session.told, event.Referenced) (last : ∀ call ∈ ending, call = .close) :
    ∀ call ∈ calls, call.Referenced := by
  intro call listed
  cases called : call.isPlaced with
  | false => cases call <;> trivial
  | true =>
      have heard : call ∈ calls.filter Call.isPlaced := List.mem_filter.mpr ⟨listed, called⟩
      rw [placed] at heard
      rcases List.mem_append.mp heard with early | late
      · obtain ⟨event, noted, calls⟩ := List.mem_filterMap.mp early
        exact told event noted call calls
      · rw [last call late]
        trivial

/-- What was asked of the device in the course of calls is what events tell of. -/
theorem scored_of_calls [Device β] [Faithful β] {clean : β → Prop} {first : Coordinator β}
    (candid : Candid clean) (ready : first.Ready) (isOpen : first.closed = false)
    (nothing : first.desk.journal = []) (empty : ∀ channel, first.held channel = none)
    (settled : Call.Settled calls) (still : clean (first.run calls).desk.device)
    (journal : session.world.sound.desk.journal = (first.run calls).desk.journal)
    (placed : calls.filter Call.isPlaced = session.told.filterMap Event.call? ++
      (if session.world.closed then [.close] else []))
    (told : ∀ event ∈ session.told, event.Referenced) : session.Scored first := by
  have last : ∀ call ∈ (if session.world.closed then [Call.close] else []), call = .close := by
    split <;> simp
  have referenced := referenced_placed placed told last
  have asked : (first.trace calls).flatMap (·.2) = session.asked := by
    have made := ready.journal candid isOpen settled still
    rw [← journal, nothing, List.reverse_nil, List.nil_append] at made
    exact made.symm
  have opened (channel : Channel) : openings channel session.asked =
      Demand.opened none (calls.map (·.demand channel)) := by
    rw [← asked, ready.openings candid isOpen settled still channel, empty]
    rfl
  refine ⟨?_, ?_, calls, placed, asked,
    ready.timely candid isOpen settled still referenced⟩
  · have scenes : calls.filterMap Call.score? = session.told.filterMap Event.music? := by
      rw [filterMap_placed placed]
      · congr 1
        funext event
        cases event <;> rfl
      · intro call aside
        cases call <;> first | rfl | contradiction
      · split <;> rfl
    rw [opened, Call.opened_music settled referenced, blocks_eq_changes, scenes]
  · intro channel other
    rw [opened, Call.opened_line other referenced, filterMap_placed placed]
    · congr 1
      funext event
      cases event with
      | dialogueEnter => cases channel <;> rfl
      | sceneEnter | finished | typingComplete | transitionStart | transitionCommit
      | transitionEnd | choiceSelect | restarted | closed => rfl
    · intro call aside
      cases call <;> first | rfl | contradiction
    · split <;> rfl

section Runs

variable [Device β] [Faithful β] [DecidableEq κ] {callbacks : Callbacks κ η}
  {document : Json.Value} {novel : Novel} {preferences : Preferences} {device : β} {now : Int}
  {notes : η}

/-- Where the device refused nothing, the clips of a run are those that its events tell of,
whatever the host asks for and its timers do, as long as callbacks make no moves on an event. -/
theorem Unfolds.clips_opened_and_stopped_as_told
    (unfolds : Unfolds callbacks freely [] (new novel preferences device now notes) [] session)
    (quiet : callbacks.Quiet) (read : (Novel.ofValue document).1 = .ok novel)
    {clean : β → Prop} (candid : Candid clean) (still : clean session.world.sound.desk.device) :
    session.Scored (Coordinator.new device preferences.musicVolume preferences.voiceVolume
      preferences.sfxVolume preferences.muted) := by
  have referenced := referenced_of_ofValue read
  have recounts := unfolds.recounts referenced ⟨rfl, refers_spent (by simp), by
    intro entry noted
    contradiction⟩
  have told : ∀ event ∈ session.told, event.Referenced := by
    intro event noted
    obtain ⟨entry, listed, rfl⟩ := List.mem_map.mp noted
    exact recounts.told entry (List.mem_reverse.mp listed)
  have ready := Coordinator.ready_new device preferences.musicVolume preferences.voiceVolume
    preferences.sfxVolume preferences.muted
  have empty (channel : Channel) : (Coordinator.new device preferences.musicVolume
      preferences.voiceVolume preferences.sfxVolume preferences.muted).held channel = none := by
    cases channel <;> rfl
  obtain ⟨calls, abreast | relieved⟩ := unfolds.abreast quiet
  · have settled : Call.Settled calls := fun closes =>
      abreast.going (List.dropLast_subset _ closes)
    refine scored_of_calls candid ready rfl rfl empty settled (abreast.answered.device ▸ still)
      abreast.answered.journal ?_ told
    rw [abreast.isOpen, if_neg Bool.false_ne_true, List.append_nil, ← abreast.heard,
      List.filterMap_nil, List.append_nil]
  · obtain ⟨⟨_, _, sealed⟩, _, device, journal, heard, going⟩ := relieved
    have settled : Call.Settled (calls ++ [.close]) := by
      rw [Call.Settled, List.dropLast_concat]
      exact going
    refine scored_of_calls candid ready rfl rfl empty settled (device ▸ still) journal ?_ told
    rw [sealed.closed, List.filter_append, heard]
    rfl

end Runs

/-- The voyage is sailed to its end, and once more from its beginning. -/
theorem clips_opened_and_stopped_on_voyage :
    ∃ (novel : Novel) (last : Session (Watched Mixer) String Unit),
      (Novel.ofValue voyage).1 = .ok novel ∧
        Unfolds Sample.nobody freely [] (new novel {} moored 0 ()) [] last ∧
        last.world.closed = true ∧ openings .music last.asked = ["waves.ogg"] ∧
        openings .voice last.asked = ["fog.ogg", "fog.ogg"] ∧
        openings .sfx last.asked = ["horn.ogg"] ∧
        last.Scored (Coordinator.new moored ({} : Preferences).musicVolume
          ({} : Preferences).voiceVolume ({} : Preferences).sfxVolume
          ({} : Preferences).muted) := by
  have ran : (takeTurns? Sample.nobody
      [(.start, 9), (.skipTyping, 3), (.advance, 18), (.advance, 4), (.restart, 10), (.close, 4)]
      (new passage {} moored 0 ())).map (fun last =>
        (last.world.closed, openings .music last.asked, openings .voice last.asked,
          openings .sfx last.asked,
          last.world.sound.desk.device.deeds.all (·.refusal.isNone))) =
      some (true, ["waves.ogg"], ["fog.ogg", "fog.ogg"], ["horn.ogg"], true) := by
    decide +kernel
  obtain ⟨last, taken, same⟩ := Option.map_eq_some_iff.mp ran
  simp only [Prod.mk.injEq] at same
  obtain ⟨closed, music, voice, sfx, done⟩ := same
  have clean : last.world.sound.desk.device.Clean := by
    simpa [Watched.Clean] using done
  have unfolds := Unfolds.refl.of_takeTurns? taken
  exact ⟨_, last, ofValue_voyage, unfolds, closed, music, voice, sfx,
    unfolds.clips_opened_and_stopped_as_told Sample.nobody_quiet ofValue_voyage Watched.candid
      clean⟩

end Session

end VisualNovel.Playback
