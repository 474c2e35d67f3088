import VisualNovel.Proofs.Playback.Audience
import VisualNovel.Proofs.Playback.Conducting
import VisualNovel.Proofs.Playback.Unfolding

/-!
# What is done at once

In an open session nothing that is urgent is ever put off: an event to be told, a
character to be revealed and the sound that is to hear where the playback goes come
first in what is left to be done, or are not there at all.
-/

set_option autoImplicit false

namespace VisualNovel.Playback

open VisualNovel.Agenda VisualNovel.Clock VisualNovel.Event VisualNovel.Novel VisualNovel.Sound

variable {β κ η : Type}

def Task.isUrgent : Task κ η → Bool
  | .emit _ | .strike _ => true
  | .deliver event .sound => event.isPlaced
  | _ => false

def Task.isEntry : Task κ η → Bool
  | .enterScene | .enterDialogue | .beginTransition _ => true
  | _ => false

namespace Session

/-- Jobs of which all but the first can wait, and of which none forgets who listens. -/
structure Patient (jobs : List (Job (Task κ η))) : Prop where
  later : ∀ job ∈ jobs.tail, job.any Task.isUrgent = false
  remembers : .work .forgetListeners ∉ jobs

theorem patient_nil : Patient ([] : List (Job (Task κ η))) :=
  ⟨by simp, by simp⟩

theorem patient_single {job : Job (Task κ η)} (other : job ≠ .work .forgetListeners) :
    Patient [job] :=
  ⟨by simp, by simpa using other.symm⟩

theorem Patient.rest {job : Job (Task κ η)} {rest : List (Job (Task κ η))}
    (patient : Patient (job :: rest)) :
    (∀ next ∈ rest, next.any Task.isUrgent = false) ∧ .work .forgetListeners ∉ rest :=
  ⟨patient.later, fun member => patient.remembers (List.mem_cons_of_mem _ member)⟩

theorem Patient.step {job : Job (Task κ η)} {made rest : List (Job (Task κ η))}
    (patient : Patient (job :: rest)) (made_patient : Patient made) : Patient (made ++ rest) := by
  obtain ⟨calm, remembers⟩ := patient.rest
  constructor
  · intro next member
    cases made with
    | nil => exact calm next (List.mem_of_mem_tail member)
    | cons first others =>
        rcases List.mem_append.mp member with new | old
        · exact made_patient.later next new
        · exact calm next old
  · rw [List.mem_append, not_or]
    exact ⟨made_patient.remembers, remembers⟩

theorem patient_works {tasks : List (Task κ η)}
    (later : ∀ task ∈ tasks.tail, task.isUrgent = false)
    (own : ∀ task ∈ tasks, task.isOwn = true) : Patient (tasks.map .work) := by
  constructor
  · intro job member
    rw [← List.map_tail] at member
    obtain ⟨task, listed, rfl⟩ := List.mem_map.mp member
    exact later task listed
  · intro member
    obtain ⟨task, listed, same⟩ := List.mem_map.mp member
    have forgets := own task listed
    rw [Job.work.inj same] at forgets
    contradiction

variable {session : Session β κ η}

theorem Types.patient {move : Move β κ η} (types : session.Types move) :
    Patient (move.2.map .work) := by
  rcases types.tasks with none | ⟨scene, line, skipped, told⟩
  · rw [none]
    exact patient_nil
  · rw [told]
    exact patient_works (by simp) (by simp [Task.isOwn])

theorem Decides.patient {move : Move β κ η} (decides : session.Decides move) :
    Patient (move.2.map .work) := by
  cases decides with
  | refuses | nothingToPlay | starts | follows | crosses | picks | ends | restarts =>
      exact patient_works (by simp [refuse, finish, Task.isUrgent])
        (by simp [refuse, finish, Task.isOwn])
  | types types =>
      rcases types.tasks with none | ⟨scene, line, skipped, told⟩
      · rw [none]
        exact patient_works (by simp) (by simp [Task.isOwn])
      · rw [told]
        exact patient_works (by simp [Task.isUrgent]) (by simp [Task.isOwn])

private theorem patient_gesture (session : Session β κ η) (made : Gesture) :
    Patient ((meaning session made).map Job.work) := by
  cases made with
  | key name =>
      simp only [meaning]
      repeat' split
      all_goals exact ⟨by simp [Job.any, Task.isUrgent], by simp⟩
  | click | pick | replay | tick | leave => exact ⟨by simp [meaning], by simp [meaning]⟩

private theorem patient_ring (callbacks : Callbacks κ η) (timer : Timer (Alarm κ)) (time : Int)
    (ran : Nat) :
    Patient ((ring callbacks timer).map .work ++ [.drained time ran]) := by
  unfold ring
  split
  all_goals exact ⟨by simp [Job.any], by simp⟩

private theorem patient_script (session : Session β κ η) (caller : Caller)
    (script : SessionScript κ η) :
    Patient ((proceed session caller script).2.map Job.work) := by
  unfold proceed
  dsimp only
  split
  · exact patient_nil
  · exact patient_nil
  · exact ⟨by simp [Job.any, Task.isUrgent], by simp⟩

variable [Device β] [DecidableEq κ] {callbacks : Callbacks κ η}

/-- A move of the player leaves nothing urgent to wait. -/
private theorem patient_move {task : Task κ η} (moves : task.isMove = true)
    (session : Session β κ η) :
    Patient ((clockwork callbacks).step (.work task) session).2 := by
  cases task with
  | reply | replyCount => exact patient_nil
  | enterScene =>
      exact patient_works (by simp [enterScene, Task.isUrgent]) (by simp [enterScene, Task.isOwn])
  | enterDialogue =>
      show Patient ((enterDialogue session).2.map Job.work)
      unfold enterDialogue
      cases session.world.dialogue? with
      | none => exact patient_nil
      | some dialogue => exact patient_works (by simp [Task.isUrgent]) (by simp [Task.isOwn])
  | typeLine =>
      show Patient (((typeLine? session).getD (session, [])).2.map Job.work)
      cases types : typeLine? session with
      | none => exact patient_nil
      | some move => exact (types_of_typeLine? types).patient
  | strike generation =>
      show Patient ((strike session generation).2.map Job.work)
      rcases heed_tasks (withTyped session _) (tidy_strike _ _ _) with none | ⟨_, _, _, told⟩
      · rw [strike, none]
        exact patient_nil
      · rw [strike, told]
        exact patient_works (by simp) (by simp [Task.isOwn])
  | beginTransition target =>
      exact patient_works (by simp [beginTransition, Task.isUrgent])
        (by simp [beginTransition, Task.isOwn])
  | awaitCommit generation target timing =>
      show Patient ((awaitCommit session generation target timing).2.map Job.work)
      unfold awaitCommit
      split
      · exact patient_works (by simp) (by simp [Task.isOwn])
      · exact patient_nil
  | commit generation target timing =>
      show Patient ((commit session generation target timing).2.map Job.work)
      unfold commit
      split
      · exact patient_nil
      · exact patient_works (by simp [Task.isUrgent]) (by simp [Task.isOwn])
  | awaitClear generation timing =>
      show Patient ((awaitClear session generation timing).2.map Job.work)
      unfold awaitClear
      split
      · exact patient_nil
      split
      · exact patient_works (by simp) (by simp [Task.isOwn])
      · exact patient_nil
  | clear generation =>
      show Patient ((clear session generation).2.map Job.work)
      unfold clear
      split
      · exact patient_nil
      · exact patient_works (by simp) (by simp [Task.isOwn])
  | request | emit | deliver | script | resume | forgetListeners => contradiction

private theorem patient_begin {made : Request κ} (other : made ≠ .close) (session : Session β κ η) :
    Patient (begin session made).2 := by
  have move {move : Move β κ η} (asked : made.move? session = some move) :
      Patient (begin session made).2 := by
    obtain ⟨decision, begun, decides⟩ := decides_begin asked
    rw [begun]
    exact decides.patient
  cases made with
  | start | advance | choose | restart | startTyping | skipTyping => exact move rfl
  | update time =>
      simp only [begin]
      split
      · exact patient_nil
      · exact ⟨by simp [Job.any, Task.isUrgent], by simp⟩
  | flush limit => exact ⟨by simp [begin, Job.any, Task.isUrgent], by simp [begin]⟩
  | close => contradiction
  | toggleMute | stop | cancelTimers | later | setMuted | frame | statistics | isClosed =>
      exact patient_nil
  | gesture made =>
      simp only [begin]
      split
      · exact patient_nil
      · exact patient_gesture session made

private theorem patient_emit (attentive : Attentive session.world.bus) (event : Event) :
    Patient ((clockwork callbacks).step (.work (.emit event)) session).2 := by
  have cued {listeners : List (Listener κ)}
      (others : .sound ∈ listeners → event.isPlaced = false) :
      ∀ job ∈ (listeners.map (Task.deliver event)).map Job.work,
        (job : Job (Task κ η)).any Task.isUrgent = false := by
    intro job member
    obtain ⟨task, listed, rfl⟩ := List.mem_map.mp member
    obtain ⟨listener, heard, rfl⟩ := List.mem_map.mp listed
    cases listener with
    | sound => exact others heard
    | cue cue => rfl
  constructor
  · cases placed : event.isPlaced with
    | false =>
        intro job member
        exact cued (fun _ => placed) job (List.mem_of_mem_tail member)
    | true =>
        obtain ⟨cues, heard⟩ := attentive event placed
        simp only [Clockwork.step, clockwork, act, jobs, emit, heard, List.map_cons,
          List.tail_cons]
        exact cued fun listed => by simp at listed
  · intro member
    obtain ⟨task, listed, same⟩ := List.mem_map.mp member
    obtain ⟨listener, _, rfl⟩ := List.mem_map.mp listed
    cases Job.work.inj same

/-- A job leaves nothing urgent to wait, unless it closes the session. -/
private theorem patient_step {job : Job (Task κ η)} (other : job ≠ .work (.request .close))
    (attentive : Attentive session.world.bus) :
    Patient ((clockwork callbacks).step job session).2 := by
  cases job with
  | update time =>
      simp only [Clockwork.step]
      split
      · exact patient_nil
      · exact patient_single (by simp)
  | drain time ran =>
      simp only [Clockwork.step]
      split
      · exact patient_nil
      · exact patient_ring callbacks _ time _
  | drained time ran =>
      simp only [Clockwork.step]
      split
      · exact patient_nil
      · exact patient_single (by simp)
  | flush limit ran =>
      simp only [Clockwork.step]
      split
      · exact patient_nil
      split
      · exact patient_nil
      · exact ⟨by simp [Job.any], by simp⟩
  | flushed limit ran => exact patient_single (by simp)
  | work task =>
      cases task using Task.byKind with
      | move task moves => exact patient_move moves session
      | request made => exact patient_begin (fun same => other (same ▸ rfl)) session
      | emit event => exact patient_emit attentive event
      | hear event => exact patient_nil
      | cue event cue => exact patient_single (by simp)
      | script caller rest => exact patient_script session caller rest
      | resume caller next =>
          exact patient_single (by simp)
      | forgetListeners => exact patient_nil

/-- Nothing urgent is put off, and the sound hears first. -/
structure Prompt (jobs : List (Job (Task κ η))) (session : Session β κ η) : Prop where
  attentive : Attentive session.world.bus
  patient : Patient jobs

theorem Prompt.step {job : Job (Task κ η)} {rest : List (Job (Task κ η))}
    (prompt : Prompt (job :: rest) session) (other : job ≠ .work (.request .close)) :
    Prompt (((clockwork callbacks).step job session).2 ++ rest)
      ((clockwork callbacks).step job session).1 where
  attentive := prompt.attentive.of_listeners <| (stays_step callbacks other session).2 fun same =>
    prompt.patient.remembers (same ▸ List.mem_cons_self)
  patient := prompt.patient.step (patient_step other prompt.attentive)

omit [Device β] in
theorem prompt_new (novel : Novel) (preferences : Preferences) (device : β) (now : Int)
    (notes : η) : Prompt [] (new novel preferences device now notes : Session β κ η) :=
  ⟨attentive_new novel preferences device now notes, patient_nil⟩

/-- While a session is open nothing urgent is put off, whatever the callbacks do. -/
theorem Unfolds.prompt {admits : Admission β κ η} {left tasks : List (Job (Task κ η))}
    {first : Session β κ η} (unfolds : Unfolds callbacks admits left first tasks session)
    (prompt : Prompt left first) (isOpen : session.world.closed = false) :
    Prompt tasks session := by
  induction unfolds with
  | refl => exact prompt
  | @works job rest before _ _ hypothesis =>
      by_cases closes : job = .work (.request .close)
      · subst closes
        have closed : (close before).1.world.closed = false := isOpen
        rw [closed_close] at closed
        contradiction
      · rw [(stays_step callbacks closes before).1] at isOpen
        exact (hypothesis isOpen).step closes
  | asks made _ hypothesis =>
      exact ⟨(hypothesis isOpen).attentive, by simp, by simp⟩
  | listens name cue _ hypothesis =>
      obtain ⟨attentive, patient⟩ := hypothesis isOpen
      exact ⟨attentive.subscribe name cue, patient⟩

end Session

end VisualNovel.Playback
