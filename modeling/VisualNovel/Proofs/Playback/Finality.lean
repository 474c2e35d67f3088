import VisualNovel.Proofs.Playback.Sealing
import VisualNovel.Proofs.Playback.Urgency

/-!
# Closing for good

Once a session is closed nothing is told any more and the position stays where it
is, unless the session was closed in the midst of entering a scene or of following
a choice: that goes on, and tells of a line or a transition that never comes.
-/

set_option autoImplicit false

namespace VisualNovel.Playback

open VisualNovel.Agenda VisualNovel.Clock VisualNovel.Event VisualNovel.Novel VisualNovel.Sound

variable {β κ η : Type}

def Task.isSpent : Task κ η → Bool
  | .emit _ | .strike _ | .enterScene | .enterDialogue | .beginTransition _ => false
  | _ => true

namespace Session

private theorem isSpent_of_calm {job : Job (Task κ η)} (calm : job.any Task.isUrgent = false)
    (stays : job.any Task.isEntry = false) : job.all Task.isSpent = true := by
  cases job with
  | work task =>
      cases task with
      | emit | strike | enterScene | enterDialogue | beginTransition => contradiction
      | request | reply | replyCount | deliver | script | resume | typeLine | awaitCommit
      | commit | awaitClear | clear | forgetListeners => rfl
  | update | drain | drained | flush | flushed => rfl

structure Rests (first session : Session β κ η) : Prop where
  position : session.world.position = first.world.position
  chronicle : session.world.chronicle = first.world.chronicle
  counts : session.world.bus.counts = first.world.bus.counts ∨ session.world.bus.counts = []

variable {first middle session next : Session β κ η} {fired : List Firing} {device : β}

theorem Rests.refl (session : Session β κ η) : session.Rests session :=
  ⟨rfl, rfl, .inl rfl⟩

theorem Rests.trans (earlier : first.Rests middle) (later : middle.Rests next) :
    first.Rests next := by
  refine ⟨later.position.trans earlier.position, later.chronicle.trans earlier.chronicle, ?_⟩
  rcases later.counts with same | none
  · rw [same]
    exact earlier.counts
  · exact .inr none

theorem Rests.of_world (same : next.world = session.world) : session.Rests next := by
  refine ⟨congrArg Stage.position same, congrArg Stage.chronicle same, .inl ?_⟩
  rw [same]

theorem Brief.isSpent {jobs : List (Job (Task κ η))} (brief : Brief jobs) :
    ∀ job ∈ jobs, job.all Task.isSpent = true := by
  cases brief with
  | nothing | reply | count => simp [Job.all, Task.isSpent]

variable [Device β] [DecidableEq κ] {callbacks : Callbacks κ η}

/-- What is spent leaves a sealed session at rest and leads to nothing else. -/
theorem Sealed.rests_step (sealed : session.Sealed fired device) {job : Job (Task κ η)}
    (spent : job.all Task.isSpent = true) :
    session.Rests ((clockwork callbacks).step job session).1 ∧
      ∀ next ∈ ((clockwork callbacks).step job session).2, next.all Task.isSpent = true := by
  have still : session.Rests session := .refl session
  cases job with
  | update | drain | drained | flush | flushed =>
      refine ⟨.of_world (Clockwork.world_step (by simp)), fun next member => ?_⟩
      exact Job.all_of_clock ((sealed.clock (by simp)).2 next member)
  | work task =>
      cases task with
      | request made =>
          have dismisses := sealed.dismisses made
          refine ⟨⟨dismisses.position, dismisses.chronicle, ?_⟩, dismisses.brief.isSpent⟩
          exact .inl (congrArg Bus.counts dismisses.bus)
      | reply | replyCount => exact ⟨⟨rfl, rfl, .inl rfl⟩, by simp [Clockwork.step, clockwork, act]⟩
      | deliver event listener =>
          cases listener with
          | sound =>
              refine ⟨?_, by simp [Clockwork.step, clockwork, act]⟩
              cases event <;> exact ⟨rfl, rfl, .inl rfl⟩
          | cue cue =>
              exact ⟨still, by simp [Clockwork.step, clockwork, act, Job.all, Task.isSpent]⟩
      | script caller rest =>
          obtain ⟨_, _, same⟩ := world_proceed session caller rest
          constructor
          · show session.Rests (proceed session caller rest).1
            rw [same]
            exact ⟨rfl, rfl, .inl rfl⟩
          · exact works_proceed (fun _ => rfl) (fun _ _ => rfl) session caller rest
      | resume caller next =>
          exact ⟨still, by simp [Clockwork.step, clockwork, act, Job.all, Task.isSpent]⟩
      | typeLine => simp [Clockwork.step, clockwork, act, jobs, sealed.retired.typeLine?, still]
      | awaitCommit generation target timing =>
          simp only [Clockwork.step, clockwork, act, jobs, awaitCommit]
          split
          · exact ⟨still, by simp [Job.all, Task.isSpent]⟩
          · exact ⟨⟨rfl, rfl, .inl rfl⟩, by simp⟩
      | commit generation target timing =>
          simp [Clockwork.step, clockwork, act, jobs, commit, sealed.isStale, still]
      | awaitClear generation timing =>
          simp [Clockwork.step, clockwork, act, jobs, awaitClear, sealed.isStale, still]
      | clear generation =>
          simp [Clockwork.step, clockwork, act, jobs, clear, sealed.isStale, still]
      | forgetListeners => exact ⟨⟨rfl, rfl, .inr rfl⟩, by simp [Clockwork.step, clockwork, act]⟩
      | emit | strike | enterScene | enterDialogue | beginTransition => contradiction

private theorem Sealed.rests_unfolds {admits : Admission β κ η} {left tasks : List (Job (Task κ η))}
    (sealed : first.Sealed fired device) (spent : ∀ job ∈ left, job.all Task.isSpent = true)
    (unfolds : Unfolds callbacks admits left first tasks session) :
    first.Rests session ∧ ∀ job ∈ tasks, job.all Task.isSpent = true := by
  induction unfolds with
  | refl => exact ⟨.refl first, spent⟩
  | @works job rest before reached _ hypothesis =>
      obtain ⟨rests, spentBefore⟩ := hypothesis
      obtain ⟨kept, spentNext⟩ := @Sealed.rests_step _ _ _ before _ _ _ _ callbacks
        (sealed.unfolds reached) job (spentBefore job List.mem_cons_self)
      refine ⟨rests.trans kept, ?_⟩
      intro next member
      rcases List.mem_append.mp member with new | old
      · exact spentNext next new
      · exact spentBefore next (List.mem_cons_of_mem _ old)
  | asks made _ hypothesis => exact ⟨hypothesis.1, by simp [Job.all, Task.isSpent]⟩
  | listens name cue _ hypothesis =>
      have kept := hypothesis.1
      exact ⟨⟨kept.position, kept.chronicle, kept.counts⟩, hypothesis.2⟩

private theorem Sealed.rests_completes {tasks : List (Job (Task κ η))} {sights : List Sight}
    (sealed : first.Sealed fired device) (spent : ∀ job ∈ tasks, job.all Task.isSpent = true)
    (completes : Completes sighting (clockwork callbacks).step tasks first sights session) :
    first.Rests session := by
  have alone : ∀ job ∈ tasks ++ [], job.all Task.isSpent = true := by
    rw [List.append_nil]
    exact spent
  exact (sealed.rests_unfolds alone (Unfolds.refl.completes completes)).1

/-! ## Closing -/

/-- When closing a session has come to its end nobody listens, and the position is where closing
left it. -/
theorem completes_close {sights : List Sight} {after : Session β κ η}
    (isOpen : session.world.closed = false) (emptied : session.world.sound.Emptied)
    (returned : Completes sighting (clockwork callbacks).step [.work (.request .close)] session
      sights after) :
    after.world.bus = {} ∧ after.world.position = (close session).1.world.position := by
  have sealed : Sealed ((clockwork callbacks).step (.work (.emit .closed))
      (close session).1).1 _ _ := (sealed_close isOpen emptied).step _
  cases returned with
  | cons returned =>
      rw [step_close callbacks isOpen] at returned
      cases returned with
      | cons returned =>
          obtain ⟨told, _, _, delivered, last, _⟩ := returned.split
          have spent : ∀ job ∈ ((clockwork callbacks).step (.work (.emit .closed))
              (close session).1).2, job.all Task.isSpent = true := by
            intro job member
            obtain ⟨task, listed, rfl⟩ := List.mem_map.mp member
            obtain ⟨listener, _, rfl⟩ := List.mem_map.mp listed
            rfl
          have rests := sealed.rests_completes spent delivered
          cases last with
          | cons last =>
              cases last with
              | cons last =>
                  cases last with
                  | nil => exact ⟨rfl, rests.position⟩

private theorem transitioning_close (isOpen : session.world.closed = false)
    (playing : session.world.stopped = false) :
    (close session).1.world.position.transitioning = false := by
  obtain ⟨_, _, _, world⟩ := world_close isOpen
  rw [world]
  unfold stopPlayer
  rw [if_neg (by simpa [withStage] using playing)]
  rfl

variable {before : Session β κ η} {rest : List (Job (Task κ η))}

/-- A session that is closed while no scene, line or transition is still to be entered stays as
closing left it, and nothing is told any more. -/
theorem Unfolds.closes_for_good {novel : Novel} {preferences : Preferences} {device : β}
    {now : Int} {notes : η}
    (unfolds : Unfolds callbacks freely [] (new novel preferences device now notes)
      (.work (.request .close) :: rest) before)
    (isOpen : before.world.closed = false) (entered : ∀ job ∈ rest, job.any Task.isEntry = false) :
    ∃ sights after,
      Completes sighting (clockwork callbacks).step [.work (.request .close)] before sights
        after ∧
      (before.world.stopped = false → after.world.position.transitioning = false) ∧
      ∀ jobs session, Unfolds callbacks freely rest after jobs session →
        session.world.position = after.world.position ∧
          session.world.chronicle = after.world.chronicle ∧ session.world.bus.total = 0 := by
  have sealable := unfolds.sealable (sealable_new novel preferences device now notes)
  have prompt := unfolds.prompt (prompt_new novel preferences device now notes) isOpen
  obtain ⟨sights, after, returned, fired, device, sealed⟩ := sealable.closes callbacks
  obtain ⟨forgotten, stays⟩ := completes_close isOpen sealable.emptied returned
  -- nothing waits below a request that tells an event, so what is left does nothing any more
  have spent : ∀ job ∈ rest, job.all Task.isSpent = true := fun job member =>
    isSpent_of_calm (prompt.patient.later job member) (entered job member)
  refine ⟨sights, after, returned, ?_, ?_⟩
  · intro playing
    rw [stays]
    exact transitioning_close isOpen playing
  · intro jobs session later
    -- the counts are gone with the listeners, and nothing is counted afterwards
    have rests := (sealed.rests_unfolds spent later).1
    have silent : session.world.bus.counts = [] := by
      rcases rests.counts with same | none
      · rw [same, forgotten]
      · exact none
    refine ⟨rests.position, rests.chronicle, ?_⟩
    rw [Bus.total, silent]
    rfl

theorem closes_for_good_on_first_line :
    ∃ (rest jobs : List (Job (Task String Unit)))
      (before after last : Session Rehearsal String Unit),
      before.world.position.isTyping = true ∧ before.world.bus.total = 2 ∧
        rest ≠ [] ∧ Unfolds (Sample.asking .close) freely rest after jobs last ∧ jobs = [] ∧
        last.world.position = after.world.position ∧
        last.world.chronicle = after.world.chronicle ∧ last.world.bus.total = 0 := by
  have listening : Unfolds (Sample.asking .close) freely []
      (new Sample.serenade {} Rehearsal.willing 0 ()) []
      (listen (new Sample.serenade {} Rehearsal.willing 0 ()) "dialogue.enter" "leave") :=
    Unfolds.refl.listens "dialogue.enter" "leave"
  obtain ⟨rest, before, reached, isOpen, entered, begun, total, going, after, returned, last,
      ended⟩ :
      ∃ rest before,
        takeUp? (Sample.asking .close) freely 9 [.work (.request .start)]
            (listen (new Sample.serenade {} Rehearsal.willing 0 ()) "dialogue.enter" "leave") =
          some (.work (.request .close) :: rest, before) ∧
        before.world.closed = false ∧ (∀ job ∈ rest, job.any Task.isEntry = false) ∧
        before.world.position.isTyping = true ∧ before.world.bus.total = 2 ∧ rest ≠ [] ∧
        ∃ after, Agenda.run (clockwork (Sample.asking .close)).step 9
            [.work (.request .close)] before = some after ∧
          ∃ last, takeUp? (Sample.asking .close) freely 4 rest after = some ([], last) :=
    ⟨_, _, rfl, rfl, by simp [Job.any, Task.isEntry], rfl, rfl, by simp, _, rfl, _, rfl⟩
  have unfolds := (listening.asks .start).of_takeUp? reached
  obtain ⟨_, other, alsoReturned, _, rests⟩ := unfolds.closes_for_good isOpen entered
  obtain ⟨_, rfl⟩ := alsoReturned.unique (completes_iff.mpr ⟨9, returned, rfl⟩)
  have later := Unfolds.refl.of_takeUp? ended
  exact ⟨rest, [], before, _, last, begun, total, going, later, rfl, rests [] last later⟩

/-- Who closes the session on hearing that a scene is entered is told nothing of the line that
is entered all the same, but it is counted and the position is on it. -/
theorem line_entered_after_closing :
    ∃ (rest : List (Job (Task String Unit)))
      (before after last : Session Rehearsal String Unit) (sights : List Sight),
      Unfolds (Sample.asking .close) freely []
          (new Sample.serenade {} Rehearsal.willing 0 ())
          (.work (.request .close) :: rest) before ∧
        before.world.closed = false ∧
        Completes sighting (clockwork (Sample.asking .close)).step [.work (.request .close)] before
          sights after ∧
        Unfolds (Sample.asking .close) freely rest after [] last ∧
        after.world.bus.total = 0 ∧ last.world.bus.total = 1 ∧
        after.world.position.textLength = 0 ∧ last.world.position.textLength = 5 := by
  have listening : Unfolds (Sample.asking .close) freely []
      (new Sample.serenade {} Rehearsal.willing 0 ()) []
      (listen (new Sample.serenade {} Rehearsal.willing 0 ()) "scene.enter" "leave") :=
    Unfolds.refl.listens "scene.enter" "leave"
  obtain ⟨rest, before, reached, isOpen, after, returned, forgotten, blank, last, ended, total,
      entered⟩ :
      ∃ rest before,
        takeUp? (Sample.asking .close) freely 6 [.work (.request .start)]
            (listen (new Sample.serenade {} Rehearsal.willing 0 ()) "scene.enter" "leave") =
          some (.work (.request .close) :: rest, before) ∧
        before.world.closed = false ∧
        ∃ after, Agenda.run (clockwork (Sample.asking .close)).step 9
            [.work (.request .close)] before = some after ∧
          after.world.bus.total = 0 ∧ after.world.position.textLength = 0 ∧
          ∃ last, takeUp? (Sample.asking .close) freely 6 rest after = some ([], last) ∧
            last.world.bus.total = 1 ∧ last.world.position.textLength = 5 :=
    ⟨_, _, rfl, rfl, _, rfl, rfl, rfl, _, rfl, rfl, rfl⟩
  exact ⟨rest, before, after, last, _, (listening.asks .start).of_takeUp? reached, isOpen,
    completes_iff.mpr ⟨9, returned, rfl⟩, Unfolds.refl.of_takeUp? ended, forgotten, total, blank,
    entered⟩

end Session

end VisualNovel.Playback

/-!
## Closing from anywhere

A session may be closed in the midst of whatever it does, and what it was doing
goes on. Still nothing comes of that: no timer goes off any more, every clip that
was ever opened was told to stop, and all that is asked of the player is refused.
-/

namespace VisualNovel.Playback.Session

open VisualNovel.Agenda VisualNovel.Clock VisualNovel.Event VisualNovel.Novel VisualNovel.Sound

variable {β κ η : Type} [Device β] [DecidableEq κ]

/-- What is left of a session that was closed, compared with what closing left. -/
structure TornDown (callbacks : Callbacks κ η) (after session : Session (Watched β) κ η) :
    Prop where
  /-- No timer went off since. -/
  fired : session.timeline.fired = after.timeline.fired
  pending : session.timeline.pending = []
  /-- Nothing was asked of the device since. -/
  deeds : session.world.sound.desk.device.deeds = after.world.sound.desk.device.deeds
  stopped : ∀ track ∈ openedIn session.world.sound.desk.device.deeds,
    track ∈ stoppedIn session.world.sound.desk.device.deeds
  empty (channel : Channel) : (session.world.sound.slot channel).clip = none
  refuses {made : Request κ} {move : Move (Watched β) κ η} : made.move? session = some move →
    ∃ final, Performs callbacks session made [] (.flag false) final
  idles (time : Int) : ∃ final, Performs callbacks session (.update time) [] (.count 0) final

variable {callbacks : Callbacks κ η} {session before final : Session (Watched β) κ η}
  {fired : List Firing} {device : Watched β}

theorem Unfolds.keeping [Faithful β] {admits : Admission (Watched β) κ η}
    {left jobs : List (Job (Task κ η))} {first : Session (Watched β) κ η}
    (unfolds : Unfolds callbacks admits left first jobs session)
    (keeping : first.world.sound.Keeping) : session.world.sound.Keeping := by
  apply unfolds.invariant (fun session => session.world.sound.Keeping) keeping
  · intro job session keeping
    exact (conducts_step callbacks job session).keeping keeping
  · intro session name cue keeping
    exact keeping

private theorem Sealed.tornDown {after : Session (Watched β) κ η}
    (earlier : after.Sealed fired device)
    (sealed : session.Sealed fired device) (keeping : session.world.sound.Keeping) :
    TornDown callbacks after session where
  fired := sealed.shut.same.trans earlier.shut.same.symm
  pending := sealed.shut.idle
  deeds := congrArg Watched.deeds (sealed.device.trans earlier.device.symm)
  stopped := keeping.stopped_of_empty sealed.silent.empty
  empty := sealed.silent.empty
  refuses := by
    intro made move asked
    have refused : Completes sighting (clockwork callbacks).step
        (((clockwork callbacks).step (.work (.request made)) session).2 ++ [])
        ((clockwork callbacks).step (.work (.request made)) session).1 []
        (session.reply (.flag false)) := by
      simp only [Clockwork.step, clockwork, act, sealed.retired.refuses asked]
      exact .cons .nil
    exact ⟨_, performs_iff.mpr ⟨.cons refused, rfl⟩⟩
  idles := by
    intro time
    have answered : Completes sighting (clockwork callbacks).step
        (((clockwork callbacks).step (.work (.request (.update time))) session).2 ++ [])
        ((clockwork callbacks).step (.work (.request (.update time))) session).1 []
        (session.reply (.count 0)) := by
      simp only [Clockwork.step, clockwork, act, begin, sealed.closed, if_true]
      exact .nil
    exact ⟨_, performs_iff.mpr ⟨.cons answered, rfl⟩⟩

/-- Closing returns wherever it was asked for, and from then on the session is torn down, while
what was under way is brought to its end and whatever the host asks for later. -/
theorem Unfolds.tearsDown [Faithful β] {novel : Novel} {preferences : Preferences} {device : β}
    {now : Int} {notes : η} {rest : List (Job (Task κ η))}
    (unfolds : Unfolds callbacks freely [] (new novel preferences (Watched.mk device []) now notes)
      (.work (.request .close) :: rest) before) :
    ∃ sights after,
      Completes sighting (clockwork callbacks).step [.work (.request .close)] before sights
        after ∧
      ∀ jobs session, Unfolds callbacks freely rest after jobs session →
        TornDown callbacks after session := by
  have sealable := unfolds.sealable (sealable_new novel preferences _ now notes)
  obtain ⟨sights, after, returned, fired, device, sealed⟩ := sealable.closes callbacks
  refine ⟨sights, after, returned, ?_⟩
  intro jobs session later
  have reached := (unfolds.completes returned).keeping (Coordinator.keeping_new _ _ _ _ _)
  exact sealed.tornDown (sealed.unfolds later) (later.keeping reached)

theorem tearsDown_on_first_line :
    ∃ (rest : List (Job (Task String Unit)))
      (before after last : Session (Watched Rehearsal) String Unit),
      rest ≠ [] ∧ before.world.closed = false ∧
        openedIn before.world.sound.desk.device.deeds =
          [⟨1, .voice, "ahoy.ogg"⟩, ⟨0, .music, "waves.ogg"⟩] ∧
        Unfolds (Sample.asking .close) freely rest after [] last ∧
        TornDown (Sample.asking .close) after last := by
  have listening : Unfolds (Sample.asking .close) freely []
      (new Sample.serenade {} (Watched.mk Rehearsal.willing []) 0 ()) []
      (listen (new Sample.serenade {} (Watched.mk Rehearsal.willing []) 0 ()) "dialogue.enter"
        "leave") :=
    Unfolds.refl.listens "dialogue.enter" "leave"
  obtain ⟨rest, before, reached, going, isOpen, opened, after, returned, last, ended⟩ :
      ∃ rest before,
        takeUp? (Sample.asking .close) freely 9 [.work (.request .start)]
            (listen (new Sample.serenade {} (Watched.mk Rehearsal.willing []) 0 ()) "dialogue.enter"
              "leave") =
          some (.work (.request .close) :: rest, before) ∧
        rest ≠ [] ∧ before.world.closed = false ∧
        openedIn before.world.sound.desk.device.deeds =
          [⟨1, .voice, "ahoy.ogg"⟩, ⟨0, .music, "waves.ogg"⟩] ∧
        ∃ after, Agenda.run (clockwork (Sample.asking .close)).step 9
            [.work (.request .close)] before = some after ∧
          ∃ last, takeUp? (Sample.asking .close) freely 4 rest after = some ([], last) :=
    ⟨_, _, rfl, by simp, rfl, rfl, _, rfl, _, rfl⟩
  have unfolds := (listening.asks .start).of_takeUp? reached
  obtain ⟨_, other, alsoReturned, torn⟩ := unfolds.tearsDown
  obtain ⟨_, rfl⟩ := alsoReturned.unique (completes_iff.mpr ⟨9, returned, rfl⟩)
  have later := Unfolds.refl.of_takeUp? ended
  exact ⟨rest, before, _, last, going, isOpen, opened, later, torn [] last later⟩

end VisualNovel.Playback.Session
