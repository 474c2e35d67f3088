import VisualNovel.Proofs.Clock.Draining
import VisualNovel.Proofs.Playback.Frames
import VisualNovel.Proofs.Playback.Player.Utterance
import VisualNovel.Proofs.Playback.Standing

/-!
# Those who listen

What holds of those who listen to a session and is brought up to date with every
event they are told, holds after every request: the player does nothing to them
but telling events.
-/

set_option autoImplicit false

namespace VisualNovel.Playback

open VisualNovel.Agenda VisualNovel.Clock VisualNovel.Event VisualNovel.Novel VisualNovel.Sound

variable {β κ η : Type}

/-- The sound hears first of all events that tell where the playback goes, then callbacks do. -/
def Attentive (bus : Bus (Listener κ)) : Prop :=
  ∀ event : Event, event.isPlaced = true →
    ∃ cues : List κ, bus.heard event.name = .sound :: cues.map .cue

theorem Attentive.of_listeners {bus next : Bus (Listener κ)} (attentive : Attentive bus)
    (same : next.listeners = bus.listeners) : Attentive next := by
  intro event placed
  obtain ⟨cues, heard⟩ := attentive event placed
  refine ⟨cues, ?_⟩
  rw [← heard, Bus.heard, Bus.heard, same]

theorem Attentive.subscribe [DecidableEq κ] {bus : Bus (Listener κ)} (attentive : Attentive bus)
    (name : String) (cue : κ) : Attentive (bus.subscribe name (.cue cue)) := by
  intro event placed
  obtain ⟨cues, heard⟩ := attentive event placed
  by_cases same : event.name = name
  · rw [same] at heard ⊢
    rw [Bus.heard_subscribe_self]
    split
    · exact ⟨cues, heard⟩
    · exact ⟨cues ++ [cue], by simp [heard]⟩
  · refine ⟨cues, ?_⟩
    rw [← heard]
    exact congrArg (fun found : Option (List (Listener κ)) => found.getD [])
      (lookup_adjust_of_ne same _ _ _)

namespace Session

theorem attentive_new [DecidableEq κ] (novel : Novel) (preferences : Preferences) (device : β)
    (now : Int) (notes : η) :
    Attentive (new novel preferences device now notes : Session β κ η).world.bus := by
  intro event placed
  refine ⟨[], ?_⟩
  cases event <;> first | rfl | contradiction

def isOwn : Job (Task κ η) → Bool
  | .work task => task.isOwn
  | _ => true

def deliveries (session : Session β κ η) (event : Event) : List (Job (Task κ η)) :=
  ((session.world.bus.heard event.name).map (Task.deliver event)).map .work

theorem map_work_own {tasks : List (Task κ η)} (own : ∀ task ∈ tasks, task.isOwn = true) :
    ∀ job ∈ tasks.map Job.work, isOwn job = true := by
  intro job member
  obtain ⟨task, listed, rfl⟩ := List.mem_map.mp member
  exact own task listed

theorem ring_own (callbacks : Callbacks κ η) {timer : Timer (Alarm κ)}
    (own : timer.payload.isOwn = true) :
    ∀ task ∈ ring callbacks timer, task.isOwn = true := by
  unfold ring
  cases payload : timer.payload with
  | ring cue =>
      rw [payload] at own
      contradiction
  | strike | commit | clear => simp [Task.isOwn]

variable [Device β] [DecidableEq κ] {callbacks : Callbacks κ η}
  {session before after final : Session β κ η} {seen sights : List Sight}

/-- What the player does besides telling events is not noticed. -/
theorem step_own (callbacks : Callbacks κ η) {job : Job (Task κ η)} (own : isOwn job = true)
    (silent : ∀ event, job ≠ .work (.emit event)) (undisturbed : session.Undisturbed) :
    session.Keeps ((clockwork callbacks).step job session).1 ∧
      ∀ next ∈ ((clockwork callbacks).step job session).2, isOwn next = true := by
  cases job with
  | work task =>
      have other (event : Event) (same : task = .emit event) : False :=
        silent event (congrArg Job.work same)
      obtain ⟨move, acts, modest⟩ := modest_act callbacks 0 own other session
      show session.Keeps (act callbacks task session).1 ∧ _
      simp only [Clockwork.step, clockwork, acts]
      exact ⟨modest.keeps, map_work_own modest.own⟩
  | update time =>
      simp only [Clockwork.step]
      split
      · exact ⟨keeps_of_same rfl rfl rfl rfl, by simp⟩
      · exact ⟨.refl session, by simp [isOwn]⟩
  | drain time ran =>
      simp only [Clockwork.step]
      cases taken : session.timeline.takeDue? time with
      | none =>
          exact ⟨⟨rfl, fun calm => ⟨calm.isOpen, calm.playing, calm.alarms⟩⟩, by simp⟩
      | some found =>
          obtain ⟨timer, timeline⟩ := found
          obtain ⟨rest, waiting, _, made⟩ := Timeline.takeDue?_eq_some.mp taken
          have alarms := undisturbed.alarms
          have left : OwnAlarms timeline := by
            intro other member
            rw [← made] at member
            exact alarms other (waiting ▸ List.mem_cons_of_mem _ member)
          refine ⟨⟨rfl, fun calm => ⟨calm.isOpen, calm.playing, left⟩⟩, ?_⟩
          intro next member
          rcases List.mem_append.mp member with member | member
          · exact map_work_own
              (ring_own callbacks (alarms timer (waiting ▸ List.mem_cons_self))) next member
          · obtain rfl := List.mem_singleton.mp member
            rfl
  | drained time ran =>
      simp only [Clockwork.step]
      split
      · exact ⟨⟨rfl, fun calm => ⟨calm.isOpen, calm.playing, calm.alarms⟩⟩, by simp⟩
      · exact ⟨.refl session, by simp [isOwn]⟩
  | flush limit ran =>
      simp only [Clockwork.step]
      split
      · exact ⟨keeps_of_same rfl rfl rfl rfl, by simp⟩
      · split
        · exact ⟨keeps_of_same rfl rfl rfl rfl, by simp⟩
        · exact ⟨.refl session, by simp [isOwn]⟩
  | flushed limit ran => exact ⟨.refl session, by simp [Clockwork.step, isOwn]⟩

def Hears {σ : Type} (callbacks : Callbacks κ η) (holds : σ → Audience β κ η → Prop)
    (after : σ → Event → σ) : Prop :=
  ∀ (score : σ) (session : Session β κ η) (event : Event) (sights : List Sight)
    (final : Session β κ η), holds score session.audience →
      Completes sighting (clockwork callbacks).step (session.deliveries event)
        (emit session event).1 sights final →
      holds (after score event) final.audience

private theorem deliveries_undisturbed (quiet : callbacks.Quiet) (undisturbed : session.Undisturbed)
    {event : Event}
    (delivered : Completes sighting (clockwork callbacks).step (session.deliveries event)
      (emit session event).1 sights final) : sights = [] ∧ final.Undisturbed := by
  have shows : (emit session event).1.Shows ((emit session event).1.player []) :=
    ⟨undisturbed.isOpen, undisturbed.playing, [], rfl⟩
  obtain ⟨_, _, completes, showsFinal, told, _⟩ :=
    (overheard_deliveries quiet event (session.world.bus.heard event.name) _).leads shows
  obtain ⟨rfl, rfl⟩ := delivered.unique completes
  obtain ⟨isOpen, playing, seen, same⟩ := showsFinal
  have silent : sights = [] := by simpa [Session.player] using told
  have timeline : final.timeline = session.timeline := congrArg Player.timeline same
  exact ⟨silent, isOpen, playing, timeline ▸ undisturbed.alarms⟩

/-- What holds of those who listen holds after a run, brought up to date with what they were told.
-/
private theorem audience_of_run {σ : Type} {holds : σ → Audience β κ η → Prop}
    {after : σ → Event → σ}
    (quiet : callbacks.Quiet) (hears : Hears callbacks holds after) {budget : Nat}
    {jobs : List (Job (Task κ η))} (own : ∀ job ∈ jobs, isOwn job = true)
    (undisturbed : session.Undisturbed) {score : σ} (held : holds score session.audience)
    (finished : Agenda.run (clockwork callbacks).step budget jobs session = some final) :
    holds ((watch sighting (clockwork callbacks).step budget jobs session).foldl
      (fun score sight => after score sight.event) score) final.audience := by
  induction budget using Nat.strongRecOn generalizing session jobs score with
  | ind budget hypothesis =>
      cases jobs with
      | nil =>
          rw [run_nil, Option.some.injEq] at finished
          rw [watch, ← finished]
          exact held
      | cons job rest =>
          cases budget with
          | zero => simp [Agenda.run] at finished
          | succ budget =>
              have ownRest : ∀ job ∈ rest, isOwn job = true :=
                fun job member => own job (List.mem_cons_of_mem _ member)
              rw [run_cons] at finished
              rw [watch]
              by_cases told : ∃ event, job = .work (.emit event)
              · -- those who listen are told first, then the rest is done
                obtain ⟨event, rfl⟩ := told
                have tells : (clockwork callbacks).step (.work (.emit event)) session =
                    ((emit session event).1, session.deliveries event) := rfl
                rw [tells] at finished ⊢
                obtain ⟨spent, left, middle, enough, first, second, watched⟩ :=
                  run_append sighting finished
                have delivered := completes_iff.mpr
                  ⟨spent, first, Eq.refl (watch sighting (clockwork callbacks).step spent _ _)⟩
                obtain ⟨silent, calm⟩ := deliveries_undisturbed quiet undisturbed delivered
                have heard := hears score session event _ middle held delivered
                rw [watched, silent]
                exact hypothesis left (by omega) ownRest calm heard second
              · obtain ⟨keeps, ownNext⟩ := step_own callbacks
                  (own job List.mem_cons_self) (fun event same => told ⟨event, same⟩) undisturbed
                have silent : sighting job session = [] := by
                  unfold sighting
                  split
                  · next event => exact absurd ⟨event, rfl⟩ told
                  · rfl
                rw [silent, List.nil_append]
                refine hypothesis budget (Nat.lt_succ_self _) ?_ (keeps.undisturbed undisturbed)
                  (keeps.audience.symm ▸ held) finished
                intro next member
                rcases List.mem_append.mp member with member | member
                · exact ownNext next member
                · exact ownRest next member

/-- Beginning a request that plays changes nothing for those who listen, and leaves only jobs of its
own. -/
theorem begin_own {made : Request κ} (plays : made.Plays) (session : Session β κ η) :
    session.Keeps (begin session made).1 ∧
      ∀ job ∈ (begin session made).2, isOwn job = true := by
  have moves {effort : Nat} {move : Move β κ η} (modest : session.Modest 0 effort move) :
      session.Keeps (jobs move).1 ∧ ∀ job ∈ (jobs move).2, isOwn job = true :=
    ⟨modest.keeps, map_work_own modest.own⟩
  cases made with
  | start => exact moves (modest_whenOpen (modest_start session) (by omega))
  | advance => exact moves (modest_whenOpen (modest_advance session) (by omega))
  | choose choiceId => exact moves (modest_whenOpen (modest_choose session choiceId) (by omega))
  | restart => exact moves (modest_whenOpen (modest_restart session) (by omega))
  | startTyping => exact moves (modest_startTyping session)
  | skipTyping => exact moves (modest_skipTyping session)
  | update time =>
      simp only [begin]
      split
      · exact ⟨keeps_of_same rfl rfl rfl rfl, by simp⟩
      · exact ⟨.refl session, by simp [isOwn, Task.isOwn]⟩
  | flush limit => exact ⟨.refl session, by simp [begin, isOwn, Task.isOwn]⟩
  | toggleMute | close | stop | cancelTimers | later | setMuted | frame | statistics | isClosed
  | gesture => exact absurd plays id

omit [Device β] [DecidableEq κ] in
/-- Between requests nothing but the player has timers. -/
theorem Stands.undisturbed (stands : session.Stands seen) : session.Undisturbed := by
  refine ⟨stands.isOpen, stands.playing, ?_⟩
  intro timer waiting
  cases stands.resting with
  | unstarted unstarted =>
      exact absurd (unstarted.waits.pending.mem_iff.mp waiting) List.not_mem_nil
  | coherent coherent _ =>
      have member := coherent.lined.waits.pending.mem_iff.mp waiting
      rcases List.mem_append.mp member with member | member
      · obtain rfl := Option.mem_toList.mp member
        rw [(coherent.lined.waits.strikes timer rfl).2]
        rfl
      · obtain rfl := Option.mem_toList.mp member
        cases coherent.crossing.phased timer rfl with
        | commit _ payload _ => rw [payload]; rfl
        | clear _ payload => rw [payload]; rfl

/-- After a request that plays, those who listen are up to date with what was told. -/
theorem Stands.audience {σ : Type} {holds : σ → Audience β κ η → Prop} {after : σ → Event → σ}
    (stands : session.Stands seen) (quiet : callbacks.Quiet) (hears : Hears callbacks holds after)
    {made : Request κ} (plays : made.Plays) {answer : Answer}
    (performed : Performs callbacks session made sights answer final) {score : σ}
    (held : holds score session.audience) :
    holds (sights.foldl (fun score sight => after score sight.event) score) final.audience := by
  obtain ⟨budget, performs, rfl⟩ := performed
  obtain ⟨_, finished, given⟩ := Option.map_eq_some_iff.mp performs
  obtain ⟨_, rfl⟩ := Prod.mk.inj given
  cases budget with
  | zero => simp [Clockwork.run, Agenda.run] at finished
  | succ budget =>
      obtain ⟨keeps, own⟩ := begin_own plays session
      rw [Clockwork.run, run_cons] at finished
      have ownAll : ∀ job ∈ (begin session made).2 ++ [], isOwn job = true := by simpa using own
      exact audience_of_run quiet hears ownAll
        (keeps.undisturbed stands.undisturbed) (keeps.audience.symm ▸ held) finished

end Session

end VisualNovel.Playback
