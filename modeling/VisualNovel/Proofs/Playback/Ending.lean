import VisualNovel.Proofs.Playback.Concluded

/-!
# The end of a playback

A playback that has ended stays so until it is played again, also with callbacks that
ask for whatever they like in the midst of anything. Only, it must not be ended by a
callback while a scene or a line is still to be entered or a transition to be begun:
what is still to be done is done all the same.
-/

set_option autoImplicit false

namespace VisualNovel.Playback.Session

open VisualNovel.Agenda VisualNovel.Clock VisualNovel.Event VisualNovel.Novel VisualNovel.Sound

variable {β κ η : Type}

/-- How a playback ends: its end is told, the sound hears of it, and then it rests. -/
inductive Concludes (session : Session β κ η) : List (Job (Task κ η)) → Prop where
  | tells {rest : List (Job (Task κ η))} : session.Over → session.world.closed = false →
      (∀ job ∈ rest, job.all Task.isSettled = true) →
      Concludes session (.work (.emit
        (.finished session.world.position.scene session.world.position.dialogue)) :: rest)
  | hears {rest : List (Job (Task κ η))} (scene dialogue : Int) : session.Over →
      EndTold session → (∀ job ∈ rest, job.all Task.isSettled = true) →
      Concludes session (.work (.deliver (.finished scene dialogue) .sound) :: rest)
  | rests {jobs : List (Job (Task κ η))} : session.Concluded →
      (∀ job ∈ jobs, job.all Task.isSettled = true) → Concludes session jobs

variable {session : Session β κ η} {job : Job (Task κ η)} {jobs rest : List (Job (Task κ η))}

/-- Playing again puts a playback that has ended on its way. -/
theorem Over.replays (ended : session.Over) (isOpen : session.world.closed = false)
    (active : session.world.isActive = true)
    (calm : ∀ later ∈ rest, later.any Task.isUrgent = false)
    (settled : ∀ later ∈ rest, later.all Task.isSettled = true) :
    Ongoing ((replay session).2.map .work ++ rest) (replay session).1 := by
  have clocked := (passes_stopTyping session).clocked (clocked_of_idle ended.idle)
  obtain ⟨cancelled, free⟩ := clocked.cancelTransition
  have playing : session.world.stopped = false := by
    simpa [Stage.isActive, ended.started] using active
  have plays : (replay session).1.Plays :=
    ⟨⟨cancelled.numbered, cancelled.strikes, cancelled.phases, cancelled.rings, fun _ => free⟩,
      isOpen, playing, rfl⟩
  apply plays.ongoing calm
  · exact fun later member => isPhase_of_settled (settled later member)
  · simp [replay, Job.any, Task.isPhase]
  · simp [replay]
  · simp [replay, Single, Job.any, Task.isPhase]

/-- The player ends a playback when nothing is left to be done that goes on with it. -/
theorem Ongoing.ends (ongoing : Ongoing (job :: rest) session)
    (calm : ∀ later ∈ rest, later.any Task.isUrgent = false)
    (stays : ∀ later ∈ rest, later.any Task.isEntry = false)
    (active : session.world.isActive = true)
    (settled : session.world.position.transitioning = false) :
    Concludes (finish session).1 ((finish session).2.map .work ++ rest) := by
  have started : session.world.started = true := by
    simp only [Stage.isActive, Bool.and_eq_true] at active
    exact active.1
  have ended : (finish session).1.Over :=
    ⟨started, rfl, settled, ongoing.clocked.idle_stopTyping settled⟩
  apply Concludes.tells ended ongoing.isOpen
  intro later member
  rcases List.mem_cons.mp member with rfl | member
  · rfl
  · exact isSettled_of_calm (calm later member) (stays later member)
      (ongoing.phaseless settled later member)

variable [Device β] [DecidableEq κ] {callbacks : Callbacks κ η}

/-- The end of a playback is told and heard step by step. -/
theorem Concludes.step (concludes : Concludes session (job :: rest))
    (prompt : session.world.closed = false → Prompt (job :: rest) session)
    (sealable : session.Sealable)
    (own : ∀ delay label cue, job ≠ .work (.request (.later delay label cue))) :
    Concludes ((clockwork callbacks).step job session).1
        (((clockwork callbacks).step job session).2 ++ rest) ∨
      Ongoing (((clockwork callbacks).step job session).2 ++ rest)
        ((clockwork callbacks).step job session).1 := by
  cases concludes with
  | tells ended isOpen settled =>
      left
      obtain ⟨cues, heard⟩ := (prompt isOpen).attentive
        (.finished session.world.position.scene session.world.position.dialogue) rfl
      simp only [Clockwork.step, clockwork, act, Session.jobs, emit, heard, List.map_cons,
        List.cons_append]
      apply Concludes.hears
      · exact ended.of_same rfl rfl rfl
      · exact ⟨_, [], _, rfl, by simp⟩
      · intro later member
        rcases List.mem_append.mp member with cued | waiting
        · obtain ⟨task, listed, rfl⟩ := List.mem_map.mp cued
          obtain ⟨listener, named, rfl⟩ := List.mem_map.mp listed
          obtain ⟨cue, _, rfl⟩ := List.mem_map.mp named
          rfl
        · exact settled later waiting
  | hears scene dialogue ended told settled =>
      left
      refine .rests ⟨ended.of_same rfl rfl rfl, told.of_same rfl rfl rfl, ?_⟩ settled
      exact (Coordinator.hushed_finish sealable.emptied).cleared
  | rests concluded settled =>
      have first := settled job List.mem_cons_self
      rcases concluded.step sealable.emptied first own with ⟨stays, made⟩ | ⟨active, replays⟩
      · left
        refine .rests stays fun later member => ?_
        rcases List.mem_append.mp member with new | waiting
        · exact made later new
        · exact settled later (List.mem_cons_of_mem _ waiting)
      · right
        have isOpen := sealable.isOpen_of_active active
        rw [replays]
        exact concluded.toOver.replays isOpen active (prompt isOpen).patient.later
          fun later member => settled later (List.mem_cons_of_mem _ member)

/-- A playback is ended only when nothing is left to be done that goes on with it, and callbacks
set no timers of their own. -/
def endsAside (callbacks : Callbacks κ η) : Admission β κ η := fun job rest session =>
  (match job with
    | .work (.request (.later _ _ _)) => false
    | _ => true) &&
  (session.world.position.finished ||
    !((clockwork callbacks).step job session).1.world.position.finished ||
    rest.all fun later => !later.any Task.isEntry)

private theorem own_of_endsAside (admitted : endsAside callbacks job rest session = true) :
    ∀ delay label cue, job ≠ .work (.request (.later delay label cue)) := by
  rintro delay label cue rfl
  contradiction

private theorem stays_of_endsAside (admitted : endsAside callbacks job rest session = true)
    (going : session.world.position.finished = false)
    (ended : ((clockwork callbacks).step job session).1.world.position.finished = true) :
    ∀ later ∈ rest, later.any Task.isEntry = false := by
  simp only [endsAside, going, ended, Bool.not_true, Bool.or_self, Bool.false_or,
    Bool.and_eq_true, List.all_eq_true, Bool.not_eq_true'] at admitted
  exact admitted.2

variable {novel : Novel} {preferences : Preferences} {device : β} {now : Int} {notes : η}

omit [Device β] in
private theorem plays_new : (new novel preferences device now notes : Session β κ η).Plays where
  clocked := clocked_of_idle rfl
  isOpen := rfl
  playing := rfl
  going := rfl

/-- A playback goes on, was stopped before its end, or comes to its end. -/
theorem Unfolds.proceeds
    (unfolds : Unfolds callbacks (endsAside callbacks) []
      (new novel preferences device now notes) jobs session) :
    Ongoing jobs session ∨ session.Halted ∨ Concludes session jobs := by
  -- by induction on what was done; a caller asks only when nothing is left to be done, and then
  -- a playback that has come to its end is at rest
  induction unfolds with
  | refl => exact .inl plays_new.idle
  | @works job rest before reached admitted hypothesis =>
      have sealable := reached.sealable (sealable_new novel preferences device now notes)
      have prompt := reached.prompt (prompt_new novel preferences device now notes)
      have own := own_of_endsAside admitted
      rcases hypothesis with ongoing | halted | concludes
      · have calm := (prompt ongoing.isOpen).patient.later
        rcases ongoing.step calm own with goes | halted | ⟨ends, active, settled⟩
        · exact .inl goes
        · exact .inr (.inl halted)
        · have stays := stays_of_endsAside admitted ongoing.going (by rw [ends]; rfl)
          right
          right
          rw [ends]
          exact ongoing.ends calm stays active settled
      · exact .inr (.inl (halted.step job))
      · rcases concludes.step prompt sealable own with concludes | goes
        · exact .inr (.inr concludes)
        · exact .inl goes
  | asks made _ hypothesis =>
      rcases hypothesis with ongoing | halted | concludes
      · exact .inl (ongoing.toPlays.asked made)
      · exact .inr (.inl halted)
      · cases concludes with
        | rests concluded _ =>
            exact .inr (.inr (.rests concluded (by simp [Job.all, Task.isSettled])))
  | listens name cue _ hypothesis =>
      rcases hypothesis with ongoing | halted | concludes
      · have plays : Plays (listen _ name cue) :=
          ongoing.toPlays.passes (passes_of_same rfl rfl rfl rfl)
        exact .inl plays.idle
      · exact .inr (.inl (halted.of_same rfl rfl))
      · cases concludes with
        | rests concluded _ =>
            exact .inr (.inr (.rests (concluded.of_same rfl rfl rfl rfl rfl) (by simp)))

/-- Once a playback has ended and all is done that was to be done, it stands where it ended. -/
theorem Unfolds.ends_for_good
    (unfolds : Unfolds callbacks (endsAside callbacks) []
      (new novel preferences device now notes) [] session)
    (finished : session.world.position.finished = true) :
    session.world.position.transitioning = false ∧ session.timeline.pending = [] ∧
      session.world.sound.voice.clip = none ∧ session.world.sound.sfx.clip = none ∧
      ∃ clock later earlier,
        session.world.chronicle =
            later ++ (clock, .finished session.world.position.scene
              session.world.position.dialogue) :: earlier ∧
          ∀ told ∈ later, told.2 = .closed := by
  rcases unfolds.proceeds with ongoing | halted | concludes
  · rw [ongoing.going] at finished
    contradiction
  · rw [halted.unfinished] at finished
    contradiction
  · cases concludes with
    | rests concluded _ =>
        exact ⟨concluded.settled, concluded.idle, concluded.hushed.voice, concluded.hushed.sfx,
          concluded.told⟩

theorem ends_for_good_in_callback :
    ∃ last : Session Rehearsal String Unit,
      Unfolds (Sample.asking .advance) (endsAside (Sample.asking .advance)) []
          (new Sample.serenade {} Rehearsal.willing 0 ()) [] last ∧
        last.world.position.finished = true ∧ last.world.sound.music.clip ≠ none ∧
        last.world.position.transitioning = false ∧ last.timeline.pending = [] ∧
        last.world.sound.voice.clip = none ∧ last.world.sound.sfx.clip = none ∧
        ∃ clock later earlier,
          last.world.chronicle =
              later ++ (clock, .finished last.world.position.scene
                last.world.position.dialogue) :: earlier ∧
            ∀ told ∈ later, told.2 = .closed := by
  have listening : Unfolds (Sample.asking .advance) (endsAside (Sample.asking .advance)) []
      (new Sample.serenade {} Rehearsal.willing 0 ()) []
      (listen (new Sample.serenade {} Rehearsal.willing 0 ()) "typing.complete" "next") :=
    Unfolds.refl.listens "typing.complete" "next"
  obtain ⟨middle, begun, last, skipped, finished, music⟩ :
      ∃ middle,
        takeUp? (Sample.asking .advance) (endsAside (Sample.asking .advance)) 9
            [.work (.request .start)]
            (listen (new Sample.serenade {} Rehearsal.willing 0 ()) "typing.complete" "next") =
          some ([], middle) ∧
        ∃ last,
          takeUp? (Sample.asking .advance) (endsAside (Sample.asking .advance)) 11
              [.work (.request .skipTyping)] middle = some ([], last) ∧
            last.world.position.finished = true ∧ last.world.sound.music.clip ≠ none :=
    ⟨_, rfl, _, rfl, rfl, Option.some_ne_none _⟩
  have started := (listening.asks .start).of_takeUp? begun
  have unfolds := (started.asks .skipTyping).of_takeUp? skipped
  exact ⟨last, unfolds, finished, music, unfolds.ends_for_good finished⟩

/-- Who ends the playback on hearing that its last scene is entered finds that the line of the
scene is entered all the same, and that its voice is heard after the end. -/
theorem line_entered_after_end :
    ∃ last : Session Rehearsal String Unit,
      Unfolds (Sample.asking .advance) freely []
          (new Sample.serenade {} Rehearsal.willing 0 ()) [] last ∧
        last.world.position.finished = true ∧ last.world.sound.voice.clip ≠ none ∧
        last.world.chronicle.map (fun told => told.2.name) =
          ["dialogue.enter", "playback.finished", "scene.enter"] := by
  have listening : Unfolds (Sample.asking .advance) freely []
      (new Sample.serenade {} Rehearsal.willing 0 ()) []
      (listen (new Sample.serenade {} Rehearsal.willing 0 ()) "scene.enter" "next") :=
    Unfolds.refl.listens "scene.enter" "next"
  obtain ⟨last, ended, finished, voice, told⟩ :
      ∃ last,
        takeUp? (Sample.asking .advance) freely 17 [.work (.request .start)]
            (listen (new Sample.serenade {} Rehearsal.willing 0 ()) "scene.enter" "next") =
          some ([], last) ∧
        last.world.position.finished = true ∧ last.world.sound.voice.clip ≠ none ∧
        last.world.chronicle.map (fun told => told.2.name) =
          ["dialogue.enter", "playback.finished", "scene.enter"] :=
    ⟨_, rfl, rfl, Option.some_ne_none _, rfl⟩
  exact ⟨last, (listening.asks .start).of_takeUp? ended, finished, voice, told⟩

end VisualNovel.Playback.Session
