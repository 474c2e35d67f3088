import VisualNovel.Proofs.Novel.Identifiers
import VisualNovel.Proofs.Novel.Places
import VisualNovel.Proofs.Playback.Accompaniment
import VisualNovel.Proofs.Playback.Audience
import VisualNovel.Proofs.Playback.Standing

/-!
# The sound of a session

Between requests the sound of an open session is that of its place: each slot
holds what belongs to the scene and the line, or nothing where the device refused.
As long as the device refuses nothing, nothing is left out.
-/

set_option autoImplicit false

namespace VisualNovel.Playback

open VisualNovel.Agenda VisualNovel.Clock VisualNovel.Event VisualNovel.Novel VisualNovel.Sound

variable {β κ η : Type}

/-! ## What is heard of callbacks -/

def Task.IsAside : Task κ η → Prop
  | .request made => made.Quiet
  | .deliver event listener => listener = .sound → event.isPlaced = false
  | .script _ rest => rest.Asks Request.Quiet
  | .resume _ next => ∀ given, (next given).Asks Request.Quiet
  | _ => False

def IsAside : Job (Task κ η) → Prop
  | .work task => task.IsAside
  | _ => False

/-- Who listens, and the sound, with the sound heard of the place before any callback. -/
structure Tunes (clean : β → Prop) (plays : Clip → Prop) (score : Score)
    (audience : Audience β κ η) : Prop where
  attentive (event : Event) : event.isPlaced = true →
    ∃ cues : List κ, (audience.listeners.lookup event.name).getD [] = .sound :: cues.map .cue
  accords : Accords clean plays score audience.sound

theorem Accords.takeReports {clean : β → Prop} {plays : Clip → Prop} {score : Score}
    {stage : Stage β κ η} (accords : Accords clean plays score stage.sound) :
    Accords clean plays score stage.takeReports.sound where
  isOpen := accords.isOpen
  slots channel := by
    cases channel with
    | music => exact accords.slots .music
    | voice => exact accords.slots .voice
    | sfx => exact accords.slots .sfx

theorem Stage.hear_of_not_isPlaced [Device β] (stage : Stage β κ η) {event : Event}
    (other : event.isPlaced = false) : stage.hear event = stage := by
  cases event <;> first | rfl | contradiction

private theorem Stage.bus_hear [Device β] (stage : Stage β κ η) (event : Event) :
    (stage.hear event).bus = stage.bus := by
  cases event <;> rfl

theorem Tunes.of_same {clean : β → Prop} {plays : Clip → Prop} {score : Score}
    {session next : Session β κ η} (tunes : Tunes clean plays score session.audience)
    (listeners : next.world.bus.listeners = session.world.bus.listeners)
    (sound : next.world.sound = session.world.sound) :
    Tunes clean plays score next.audience where
  attentive := by
    intro event placed
    rw [show next.audience.listeners = session.audience.listeners from listeners]
    exact tunes.attentive event placed
  accords := by
    rw [show next.audience.sound = session.audience.sound from sound]
    exact tunes.accords

variable [Device β] [Faithful β] {clean : β → Prop} {plays : Clip → Prop} {score : Score}

theorem Accords.hear {stage : Stage β κ η} (accords : Accords clean plays score stage.sound)
    (obliging : Obliging clean plays) (event : Event) :
    Accords clean plays (score.after event) (stage.hear event).sound := by
  cases event with
  | sceneEnter index scene =>
      exact (accords.enterScene obliging index scene).takeReports
  | dialogueEnter scene line dialogue =>
      exact (accords.enterDialogue obliging scene line dialogue).takeReports
  | finished scene line => exact (accords.finish obliging scene line).takeReports
  | typingComplete | transitionStart | transitionCommit | transitionEnd | choiceSelect
  | restarted | closed => exact accords

namespace Session

variable [DecidableEq κ] {callbacks : Callbacks κ η} {session final : Session β κ η}

omit [DecidableEq κ] in
private theorem tunes_setMuted (tunes : Tunes clean plays score session.audience)
    (obliging : Obliging clean plays) (muted : Bool) :
    Tunes clean plays score (setMuted session muted).audience :=
  ⟨tunes.attentive, (tunes.accords.setMuted obliging muted).takeReports⟩

private theorem begin_aside (session : Session β κ η) {made : Request κ} (quiet : made.Quiet)
    (tunes : Tunes clean plays score session.audience) (obliging : Obliging clean plays) :
    Tunes clean plays score (begin session made).1.audience ∧ (begin session made).2 = [] := by
  cases made with
  | toggleMute =>
      refine ⟨?_, rfl⟩
      simp only [begin]
      split
      · exact tunes
      · exact tunes_setMuted tunes obliging _
  | setMuted muted => exact ⟨tunes_setMuted tunes obliging muted, rfl⟩
  | frame | statistics | isClosed => exact ⟨tunes, rfl⟩
  | start | advance | choose | restart | update | close | startTyping | skipTyping | stop | flush
  | cancelTimers | later | gesture => exact absurd quiet id

/-- What callbacks do leaves the sound in tune, and leads to nothing else. -/
theorem step_aside (quiet : callbacks.Quiet) (obliging : Obliging clean plays)
    {job : Job (Task κ η)} (aside : IsAside job)
    (tunes : Tunes clean plays score session.audience) :
    Tunes clean plays score (audience ((clockwork callbacks).step job session).1) ∧
      ∀ next ∈ ((clockwork callbacks).step job session).2, IsAside next := by
  cases job with
  | update | drain | drained | flush | flushed => exact absurd aside id
  | work task =>
      cases task with
      | request made =>
          obtain ⟨kept, nothing⟩ := begin_aside session aside tunes obliging
          refine ⟨kept, fun next member => ?_⟩
          simp only [Clockwork.step, clockwork, act, nothing] at member
          contradiction
      | deliver event listener =>
          cases listener with
          | sound =>
              refine ⟨?_, by simp [Clockwork.step, clockwork, act]⟩
              simp only [Clockwork.step, clockwork, act, withStage,
                Stage.hear_of_not_isPlaced _ (aside rfl)]
              exact tunes
          | cue cue =>
              refine ⟨tunes, fun next member => ?_⟩
              obtain rfl := List.mem_singleton.mp member
              exact quiet cue event
      | script caller rest =>
          simp only [Clockwork.step, clockwork, act, jobs, proceed]
          cases paused : rest.proceed session.world.notes with
          | mk pause notes =>
              cases pause with
              | done | failed => exact ⟨tunes.of_same rfl rfl, by simp⟩
              | asks made next =>
                  obtain ⟨allowed, later⟩ := aside.proceed paused
                  refine ⟨tunes.of_same rfl rfl, fun job member => ?_⟩
                  simp only [List.map_cons, List.map_nil, List.mem_cons, List.not_mem_nil,
                    or_false] at member
                  rcases member with rfl | rfl
                  · exact allowed
                  · exact later
      | resume caller next =>
          refine ⟨tunes, fun job member => ?_⟩
          obtain rfl := List.mem_singleton.mp member
          exact aside session.world.answer
      | reply | replyCount | emit | enterScene | enterDialogue | typeLine | beginTransition
      | awaitCommit | commit | awaitClear | clear | strike | forgetListeners =>
          exact absurd aside id

theorem tunes_asides (quiet : callbacks.Quiet) (obliging : Obliging clean plays)
    {tasks : List (Job (Task κ η))} {sights : List Sight}
    (completes : Completes sighting (clockwork callbacks).step tasks session sights final)
    (asides : ∀ job ∈ tasks, IsAside job) (tunes : Tunes clean plays score session.audience) :
    Tunes clean plays score final.audience := by
  induction completes with
  | nil => exact tunes
  | cons _ hypothesis =>
      obtain ⟨kept, more⟩ := step_aside quiet obliging (asides _ List.mem_cons_self) tunes
      refine hypothesis (fun job member => ?_) kept
      rcases List.mem_append.mp member with new | old
      · exact more job new
      · exact asides job (List.mem_cons_of_mem _ old)

/-- The sound is in tune with what was told, whenever an event is told. -/
theorem hears_tunes (quiet : callbacks.Quiet) (obliging : Obliging clean plays) :
    Hears callbacks (Tunes clean plays) Score.after := by
  intro score session event sights final tunes delivered
  have cued (listeners : List (Listener κ))
      (others : .sound ∈ listeners → event.isPlaced = false) :
      ∀ job ∈ (listeners.map (Task.deliver event)).map Job.work,
        IsAside (job : Job (Task κ η)) := by
    intro job member
    obtain ⟨task, listed, rfl⟩ := List.mem_map.mp member
    obtain ⟨listener, heard, rfl⟩ := List.mem_map.mp listed
    rintro rfl
    exact others heard
  cases placed : event.isPlaced with
  | false =>
      rw [score.after_of_not_isPlaced event placed]
      exact tunes_asides quiet obliging delivered (cued _ fun _ => placed) tunes
  | true =>
      -- the sound is the first to hear of it, and the callbacks change nothing of that
      obtain ⟨cues, heard⟩ := tunes.attentive event placed
      have first : session.deliveries event = .work (.deliver event .sound) ::
          ((cues.map Listener.cue).map (Task.deliver event)).map .work := by
        unfold deliveries Bus.heard
        rw [show session.world.bus.listeners = session.audience.listeners from rfl, heard]
        rfl
      rw [first] at delivered
      cases delivered with
      | cons delivered =>
          refine tunes_asides quiet obliging delivered (cued _ fun listed => ?_) ⟨?_, ?_⟩
          · obtain ⟨_, _, same⟩ := List.mem_map.mp listed
            contradiction
          · have same : ((emit session event).1.world.hear event).bus.listeners =
                session.audience.listeners :=
              (congrArg Bus.listeners (Stage.bus_hear (emit session event).1.world event)).trans rfl
            intro other placed
            obtain ⟨cues, heard⟩ := tunes.attentive other placed
            refine ⟨cues, ?_⟩
            rw [← heard, ← same]
            rfl
          · have followed : Accords clean plays score (emit session event).1.world.sound :=
              tunes.accords
            exact followed.hear obliging event

/-! ## Sessions in tune -/

/-- The sessions that come of one by requests, while callbacks may be registered in between. -/
inductive Reaches (callbacks : Callbacks κ η) (first : Session β κ η) : Session β κ η → Prop where
  | refl : Reaches callbacks first first
  | performs {before after : Session β κ η} {made : Request κ} {sights : List Sight}
      {answer : Answer} : Reaches callbacks first before → made.Plays ∨ made.Quiet →
        Performs callbacks before made sights answer after → Reaches callbacks first after
  | listens {before : Session β κ η} (name : String) (cue : κ) :
      Reaches callbacks first before → Reaches callbacks first (before.listen name cue)

omit [Faithful β] in
theorem History.reaches {first last : Session β κ η} {turns : List (Turn β κ η)}
    (history : History callbacks first turns last) : Reaches callbacks first last := by
  induction history with
  | nil => exact .refl
  | snoc _ ordinary performed hypothesis => exact hypothesis.performs ordinary performed

structure Attuned (clean : β → Prop) (plays : Clip → Prop) (session : Session β κ η)
    (seen : List Sight) : Prop where
  stands : session.Stands seen
  tunes : ∃ score, Tunes clean plays score session.audience ∧
    (session.world.started = true → score = (session.player seen).score)

variable {seen sights : List Sight} {before after last : Session β κ η} {made : Request κ}
  {answer : Answer}

omit [Device β] [Faithful β] in
theorem Attuned.listen (attuned : session.Attuned clean plays seen) (name : String) (cue : κ) :
    (session.listen name cue).Attuned clean plays seen := by
  obtain ⟨stands, score, tunes, follows⟩ := attuned
  have attentive : Attentive session.world.bus := tunes.attentive
  exact ⟨⟨stands.isOpen, stands.playing, stands.resting⟩, score,
    ⟨attentive.subscribe name cue, tunes.accords⟩, follows⟩

omit [Device β] [Faithful β] in
private theorem attuned_new (clean : β → Prop) (plays : Clip → Prop) (novel : Novel)
    (preferences : Preferences) (device : β) (now : Int) (notes : η) :
    (new novel preferences device now notes : Session β κ η).Attuned clean plays [] where
  stands := (fresh_new novel preferences device now notes).stands
  tunes := by
    have attentive : Attentive
        (new novel preferences device now notes : Session β κ η).world.bus :=
      attentive_new novel preferences device now notes
    exact ⟨{}, ⟨attentive, accords_new clean plays device _ _ _ _⟩,
      fun started => by contradiction⟩

/-- After a request the sound is in tune with the place that was told last. -/
theorem Attuned.turn (attuned : before.Attuned clean plays seen) (quiet : callbacks.Quiet)
    (obliging : Obliging clean plays) (ordinary : made.Plays ∨ made.Quiet)
    (performed : Performs callbacks before made sights answer after) :
    after.Attuned clean plays (sights.reverse ++ seen) := by
  obtain ⟨stands, score, tunes, follows⟩ := attuned
  obtain ⟨same, standsAfter⟩ := stands.turn quiet ordinary performed
  have started : after.world.started = ((before.player seen).respond made).2.started :=
    congrArg Player.started same
  have told : ((before.player seen).respond made).2.seen = sights.reverse ++ seen :=
    (congrArg Player.seen same).symm
  refine ⟨standsAfter, ?_⟩
  rw [same]
  -- a move of the player is told in events, which the sound follows; a question tells nothing
  rcases ordinary with plays | reads
  · have heard := stands.audience quiet (hears_tunes quiet obliging) plays performed tunes
    refine ⟨_, heard, fun begun => ?_⟩
    rw [started] at begun
    cases stands.resting with
    | coherent coherent rested =>
        obtain ⟨events, utters, known⟩ := coherent.scores rested made
        rw [utters.foldl told Score.after_of_not_isPlaced, follows coherent.started, known]
    | unstarted unstarted =>
        rcases unstarted.comes made with ⟨time, still⟩ | ⟨_, nonempty, starts⟩
        · rw [still] at begun
          exact absurd (unstarted.started.symm.trans begun) Bool.false_ne_true
        · rw [starts] at told ⊢
          obtain ⟨events, utters, known⟩ := unstarted.scores_start nonempty score
          rw [utters.foldl told Score.after_of_not_isPlaced, known]
  · obtain ⟨completes, _⟩ := performs_iff.mp performed
    have alone : ∀ job ∈ [Job.work (Task.request made)], IsAside (job : Job (Task κ η)) := by
      intro job member
      obtain rfl := List.mem_singleton.mp member
      exact reads
    refine ⟨score, tunes_asides quiet obliging completes alone tunes, fun begun => ?_⟩
    rw [started, Player.respond_quiet reads] at begun
    rw [Player.respond_quiet reads]
    exact follows begun

theorem Reaches.attuned {first : Session β κ η} (reaches : Reaches callbacks first last)
    (quiet : callbacks.Quiet) (obliging : Obliging clean plays)
    (attuned : first.Attuned clean plays seen) :
    last.world.novel = first.world.novel ∧ ∃ told, last.Attuned clean plays told := by
  induction reaches with
  | refl => exact ⟨rfl, _, attuned⟩
  | performs _ ordinary performed hypothesis =>
      obtain ⟨novel, told, between⟩ := hypothesis
      have constant := between.stands.constant quiet ordinary performed
      exact ⟨constant.1.trans novel, _, between.turn quiet obliging ordinary performed⟩
  | listens name cue _ hypothesis =>
      obtain ⟨novel, told, between⟩ := hypothesis
      exact ⟨novel, told, between.listen name cue⟩

end Session

/-! ## Sound and place -/

namespace Stage

/-- Nothing is heard but what belongs to the place. -/
structure Accompanied (stage : Stage β κ η) : Prop where
  music : stage.sound.music.url? = none ∨
    stage.sound.music.url? = stage.scene?.bind (·.bgmUrl)
  voice : stage.sound.voice.url? = none ∨
    stage.sound.voice.url? = stage.dialogue?.bind (·.voiceUrl)
  sfx : stage.sound.sfx.url? = none ∨ stage.sound.sfx.url? = stage.dialogue?.bind (·.sfxUrl)
  silent : stage.position.finished = true ∨ stage.dialogue? = none →
    stage.sound.voice.clip = none ∧ stage.sound.sfx.clip = none

/-- Everything that belongs to the place is there, and the music waits at the end only. -/
structure FullyAccompanied (stage : Stage β κ η) : Prop where
  music : stage.sound.music.url? = stage.scene?.bind (·.bgmUrl)
  voice : stage.position.finished = false →
    stage.sound.voice.url? = stage.dialogue?.bind (·.voiceUrl)
  sfx : stage.position.finished = false →
    stage.sound.sfx.url? = stage.dialogue?.bind (·.sfxUrl)
  paused : ∀ clip, stage.sound.music.clip = some clip →
    (clip.paused = true ↔ stage.position.finished = true)

end Stage

variable {stage : Stage β κ η}

def Stage.reference (stage : Stage β κ η) : Channel → Option String
  | .music => stage.scene?.bind (·.bgmUrl)
  | .voice => if stage.position.finished then none else stage.dialogue?.bind (·.voiceUrl)
  | .sfx => if stage.position.finished then none else stage.dialogue?.bind (·.sfxUrl)

namespace Session

variable [DecidableEq κ] {callbacks : Callbacks κ η} {session last : Session β κ η}
  {seen : List Sight}

omit [Device β] [Faithful β] [DecidableEq κ] in
private theorem reference_score (seen : List Sight)
    (referenced : ∀ scene ∈ session.world.novel.scenes, scene.Referenced) (channel : Channel) :
    (session.player seen).score.reference channel = session.world.reference channel := by
  have line {url : Dialogue → Option String}
      (named : ∀ dialogue : Dialogue, dialogue.Referenced → named? (url dialogue) = url dialogue) :
      named? ((if session.world.position.finished then none
          else session.world.dialogue?).bind url) =
        if session.world.position.finished then none else session.world.dialogue?.bind url := by
    split
    · rfl
    · cases found : session.world.dialogue? with
      | none => rfl
      | some dialogue => exact named dialogue (dialogue_referenced referenced found)
  cases channel with
  | music => exact named?_bgmUrl referenced session.world.position.scene
  | voice => exact line fun _ referenced => referenced.1
  | sfx => exact line fun _ referenced => referenced.2

omit [Device β] [Faithful β] [DecidableEq κ] in
theorem Attuned.sounds (attuned : session.Attuned clean plays seen)
    (started : session.world.started = true)
    (referenced : ∀ scene ∈ session.world.novel.scenes, scene.Referenced) (channel : Channel) :
    (session.world.sound.slot channel).Sounds (clean session.world.sound.desk.device) plays
      (session.world.reference channel) ((session.player seen).score.pauses channel) := by
  obtain ⟨_, score, tunes, follows⟩ := attuned
  rw [← reference_score seen referenced, ← follows started]
  exact tunes.accords.slots channel

omit [Device β] [Faithful β] [DecidableEq κ] in
theorem Attuned.fits (attuned : session.Attuned clean plays seen)
    (started : session.world.started = true)
    (referenced : ∀ scene ∈ session.world.novel.scenes, scene.Referenced) :
    session.world.Accompanied := by
  have music := (attuned.sounds started referenced .music).holds
  obtain ⟨voice, voiceless⟩ := (attuned.sounds started referenced .voice).unless
  obtain ⟨sfx, bare⟩ := (attuned.sounds started referenced .sfx).unless
  refine ⟨(music.imp_right And.left).symm, voice, sfx, fun quiet => ⟨voiceless ?_, bare ?_⟩⟩
  · exact quiet.imp_right fun nothing => by rw [nothing, Option.bind_none]
  · exact quiet.imp_right fun nothing => by rw [nothing, Option.bind_none]

omit [Device β] [Faithful β] [DecidableEq κ] in
theorem Attuned.complete (attuned : session.Attuned clean plays seen)
    (started : session.world.started = true)
    (referenced : ∀ scene ∈ session.world.novel.scenes, scene.Referenced)
    (still : clean session.world.sound.desk.device) : session.world.FullyAccompanied := by
  have sounds := attuned.sounds started referenced
  have holds (channel : Channel) : (session.world.sound.slot channel).url? =
      session.world.reference channel :=
    (sounds channel).holds.resolve_right fun refused => refused.2 still
  refine ⟨holds .music, fun goesOn => ?_, fun goesOn => ?_, fun clip loaded => ?_⟩
  · exact (holds .voice).trans (if_neg (by simp [goesOn]))
  · exact (holds .sfx).trans (if_neg (by simp [goesOn]))
  · rw [((sounds .music).goes still clip loaded).2]
    exact Iff.rfl

variable {document : Json.Value} {novel : Novel} {preferences : Preferences} {device : β}
  {now : Int} {notes : η}

/-- Between requests the sound of an open session is that of its place, whatever the device
refuses. As long as it has refused nothing, all of the sound is there. -/
theorem Reaches.slots_hold_sound_of_place
    (reaches : Reaches callbacks (new novel preferences device now notes) last)
    (quiet : callbacks.Quiet) (read : (Novel.ofValue document).1 = .ok novel)
    (started : last.world.started = true) :
    last.world.Accompanied ∧
      ∀ (clean : β → Prop) (plays : Clip → Prop), Candid clean → Paced β plays →
        clean last.world.sound.desk.device → last.world.FullyAccompanied := by
  have referenced := referenced_of_ofValue read
  constructor
  · obtain ⟨same, _, attuned⟩ := reaches.attuned quiet obliging_never
      (attuned_new _ _ novel preferences device now notes)
    exact attuned.fits started (by rw [same]; exact referenced)
  · intro clean plays candid paced still
    obtain ⟨same, _, attuned⟩ := reaches.attuned quiet (candid.obliging paced)
      (attuned_new clean plays novel preferences device now notes)
    exact attuned.complete started (by rw [same]; exact referenced) still

/-- Two scenes with the same music, a spoken line in the first and an effect in the second. -/
def voyage : Json.Value :=
  .object [("scenes", .list [
    .object [("bgmUrl", .text "waves.ogg"), ("transition", .text "none"), ("dialogues", .list [
      .object [("text", .text "Fog."), ("voiceUrl", .text "fog.ogg")]])],
    .object [("bgmUrl", .text "waves.ogg"), ("transition", .text "none"), ("dialogues", .list [
      .object [("sfxUrl", .text "horn.ogg")]])]])]

/-- What is read of the voyage. -/
def passage : Novel where
  id := "novel"
  scenes := [
    { id := "scene-0", bgmUrl := some "waves.ogg", transition := some .none
      dialogues := [{ id := "dialogue-0-0", text := "Fog.", voiceUrl := some "fog.ogg" }] },
    { id := "scene-1", bgmUrl := some "waves.ogg", transition := some .none
      dialogues := [{ id := "dialogue-1-0", sfxUrl := some "horn.ogg" }] }]

theorem ofValue_voyage : (Novel.ofValue voyage).1 = .ok passage := rfl

def moored : Watched Mixer where
  device := {
    tree := {
      root := .directory [("waves.ogg", .file []), ("fog.ogg", .file []), ("horn.ogg", .file [])]
      current := [] } }

theorem slots_hold_sound_of_voyage :
    ∃ (novel : Novel) (last : Session (Watched Mixer) String Unit),
      (Novel.ofValue voyage).1 = .ok novel ∧
        Reaches Sample.nobody (new novel {} moored 0 ()) last ∧
        last.world.sound.sfx.url? = some "horn.ogg" ∧ last.world.Accompanied ∧
        last.world.FullyAccompanied := by
  have ran : (run? Sample.nobody 200 (new passage {} moored 0 ())
      [.start, .skipTyping, .advance]).map
        (fun run => (run.2.world.started, run.2.world.sound.sfx.url?,
          run.2.world.sound.desk.device.deeds.all (·.refusal.isNone))) =
      some (true, some "horn.ogg", true) := by
    decide +kernel
  obtain ⟨⟨turns, last⟩, ran, same⟩ := Option.map_eq_some_iff.mp ran
  simp only [Prod.mk.injEq] at same
  obtain ⟨started, heard, done⟩ := same
  have clean : last.world.sound.desk.device.Clean := by
    simpa [Watched.Clean] using done
  have reaches := (history_of_run? (by simp [Request.Plays]) ran).reaches
  obtain ⟨fits, full⟩ := reaches.slots_hold_sound_of_place Sample.nobody_quiet ofValue_voyage started
  exact ⟨_, last, ofValue_voyage, reaches, heard, fits,
    full Watched.Clean (fun _ => True) Watched.candid Mixer.paced.watched clean⟩

end Session

end VisualNovel.Playback
