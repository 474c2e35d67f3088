import VisualNovel.Proofs.Novel.Identifiers
import VisualNovel.Proofs.Playback.Finality
import VisualNovel.Proofs.Sound.Tracing

/-!
# What is told of a novel

A session keeps to its novel: whatever it does and whatever its callbacks do, the
scenes and the lines that it tells of are those of the novel that it began with.
-/

set_option autoImplicit false

namespace VisualNovel.Playback

open VisualNovel.Agenda VisualNovel.Clock VisualNovel.Event VisualNovel.Novel VisualNovel.Sound

variable {β κ η : Type}

def Event.call? : Event → Option Coordinator.Call
  | .sceneEnter _ scene => some (.enterScene scene)
  | .dialogueEnter _ _ dialogue => some (.enterDialogue (some dialogue))
  | .finished _ _ => some .finish
  | _ => none

def Event.Referenced (event : Event) : Prop :=
  ∀ call, event.call? = some call → call.Referenced

theorem Event.referenced_of_none {event : Event} (calls : event.call? = none) :
    event.Referenced := by
  intro call found
  rw [calls] at found
  contradiction

private theorem Event.referenced_finished (scene line : Int) :
    (Event.finished scene line).Referenced := by
  intro call found
  obtain rfl := Option.some.inj found
  trivial

def Task.isUnheard : Task κ η → Bool
  | .deliver _ .sound => false
  | _ => true

private theorem Task.own_of_move {task : Task κ η} (moves : task.isMove = true) :
    task.isOwn = true ∧ ∀ event, task ≠ .emit event := by
  cases task with
  | request | emit | deliver | script | resume | forgetListeners => contradiction
  | reply | replyCount | enterScene | enterDialogue | typeLine | beginTransition | awaitCommit
  | commit | awaitClear | clear | strike => exact ⟨rfl, by simp⟩

private theorem Task.unheard_of_own {task : Task κ η} (own : task.isOwn = true) :
    task.isUnheard = true := by
  cases task with
  | request | deliver | script | resume | forgetListeners => contradiction
  | reply | replyCount | emit | enterScene | enterDialogue | typeLine | beginTransition
  | awaitCommit | commit | awaitClear | clear | strike => rfl

def Refers (tasks : List (Job (Task κ η))) : Prop :=
  ∀ event, .work (.emit event) ∈ tasks → event.Referenced

namespace Session

variable {session next : Session β κ η} {move : Move β κ η}

theorem refers_works {tasks : List (Task κ η)}
    (referenced : ∀ event, .emit event ∈ tasks → event.Referenced) :
    Refers (tasks.map .work) := by
  intro event member
  obtain ⟨task, listed, same⟩ := List.mem_map.mp member
  exact referenced event (Job.work.inj same ▸ listed)

theorem refers_spent {tasks : List (Job (Task κ η))}
    (spent : ∀ job ∈ tasks, job.all Task.isSpent = true) : Refers tasks := by
  intro event member
  have impossible := spent _ member
  contradiction

/-! ## Moves -/

theorem novel_heed (session : Session β κ η) (signals : List Signal) :
    (heed session signals).1.world.novel = session.world.novel := by
  induction signals generalizing session with
  | nil => rfl
  | cons signal signals hypothesis =>
      cases signal with
      | progress | complete => exact hypothesis _

private theorem novel_stopPlayer (session : Session β κ η) :
    (stopPlayer session).2.world.novel = session.world.novel := by
  unfold stopPlayer
  split <;> rfl

structure Relates (session : Session β κ η) (decision : Session β κ η × List (Job (Task κ η))) :
    Prop where
  novel : decision.1.world.novel = session.world.novel
  refers : Refers decision.2

theorem Types.relates (types : session.Types move) : session.Relates (jobs move) := by
  have novel : move.1.world.novel = session.world.novel := by
    cases types with
    | begins | skips => exact novel_heed _ _
  refine ⟨novel, refers_works fun event told => ?_⟩
  rcases types.tasks with none | ⟨scene, line, skipped, tasks⟩
  · rw [none] at told
    contradiction
  · rw [tasks, List.mem_singleton, Task.emit.injEq] at told
    rw [told]
    exact Event.referenced_of_none rfl

/-- What a player decides tells of nothing but its novel. -/
theorem Decides.relates (decides : session.Decides move) : session.Relates (jobs move) := by
  cases decides with
  | refuses | nothingToPlay | starts | follows | crosses =>
      exact ⟨rfl, refers_works (by simp [refuse])⟩
  | types types =>
      obtain ⟨novel, refers⟩ := types.relates
      refine ⟨novel, refers_works fun event told => ?_⟩
      rcases List.mem_append.mp told with typed | replied
      · exact refers event (List.mem_map_of_mem typed)
      · simp at replied
  | picks choice target =>
      refine ⟨rfl, refers_works fun event told => ?_⟩
      obtain rfl : event = .choiceSelect choice target := by simpa using told
      exact Event.referenced_of_none rfl
  | ends =>
      refine ⟨rfl, refers_works fun event told => ?_⟩
      obtain rfl : event = .finished session.world.position.scene
          session.world.position.dialogue := by
        simpa [finish, stopTyping, withTyped, withPosition, withStage] using told
      exact Event.referenced_finished _ _
  | restarts =>
      refine ⟨rfl, refers_works fun event told => ?_⟩
      obtain rfl : event = .restarted := by simpa using told
      exact Event.referenced_of_none rfl

section Steps

variable [Device β] [DecidableEq κ]

private theorem novel_close (session : Session β κ η) :
    (close session).1.world.novel = session.world.novel := by
  cases closed : session.world.closed with
  | true => simp only [close, closed, if_true]
  | false =>
      obtain ⟨_, _, _, world⟩ := world_close closed
      rw [world]
      exact novel_stopPlayer _

private theorem relates_begin (session : Session β κ η) (made : Request κ) :
    session.Relates (begin session made) := by
  have move {move : Move β κ η} (asked : made.move? session = some move) :
      session.Relates (begin session made) := by
    obtain ⟨decision, begun, decides⟩ := decides_begin asked
    rw [begun]
    exact decides.relates
  cases made with
  | start | advance | choose | restart | startTyping | skipTyping => exact move rfl
  | update time =>
      simp only [begin]
      split
      · exact ⟨rfl, refers_spent (by simp)⟩
      · exact ⟨rfl, refers_spent (by simp [Job.all, Task.isSpent])⟩
  | close =>
      refine ⟨novel_close session, refers_works fun event told => ?_⟩
      unfold close at told
      split at told
      · simp at told
      · obtain rfl : event = .closed := by simpa using told
        exact Event.referenced_of_none rfl
  | stop => exact ⟨novel_stopPlayer session, refers_spent (by simp [begin])⟩
  | toggleMute =>
      simp only [begin]
      split
      · exact ⟨rfl, refers_spent (by simp)⟩
      · exact ⟨rfl, refers_spent (by simp)⟩
  | flush => exact ⟨rfl, refers_spent (by simp [begin, Job.all, Task.isSpent])⟩
  | cancelTimers | later | setMuted | frame | statistics | isClosed =>
      exact ⟨rfl, refers_spent (by simp [begin])⟩
  | gesture made =>
      simp only [begin]
      split
      · exact ⟨rfl, refers_spent (by simp)⟩
      · exact ⟨rfl, refers_spent (works_meaning (fun _ => rfl) (fun _ => rfl) session made)⟩

omit [DecidableEq κ] in
private theorem novel_hear (stage : Stage β κ η) (event : Event) :
    (stage.hear event).novel = stage.novel := by
  cases event <;> rfl

/-- A scene or a line that is entered is one of the novel. -/
theorem relates_move (referenced : ∀ scene ∈ session.world.novel.scenes, scene.Referenced)
    (callbacks : Callbacks κ η) {task : Task κ η} (moves : task.isMove = true) :
    session.Relates ((clockwork callbacks).step (.work task) session) := by
  cases task with
  | reply | replyCount => exact ⟨rfl, refers_spent (by simp [Clockwork.step, clockwork, act])⟩
  | enterScene =>
      refine ⟨rfl, refers_works fun event told => ?_⟩
      obtain rfl : event = .sceneEnter session.world.position.scene session.world.scene? := by
        simpa [enterScene, withPosition, withStage, Stage.scene?, Position.scene?] using told
      intro call found
      obtain rfl := Option.some.inj found
      exact named?_bgmUrl referenced session.world.position.scene
  | enterDialogue =>
      show session.Relates (jobs (enterDialogue session))
      unfold enterDialogue
      cases found : session.world.dialogue? with
      | none => exact ⟨rfl, refers_works (by simp)⟩
      | some dialogue =>
          refine ⟨rfl, refers_works fun event told => ?_⟩
          obtain rfl : event = .dialogueEnter session.world.position.scene
              session.world.position.dialogue dialogue := by
            simpa [withPosition, withStage] using told
          intro call calls
          obtain rfl := Option.some.inj calls
          exact dialogue_referenced referenced found
  | typeLine =>
      show session.Relates (jobs ((typeLine? session).getD (session, [])))
      cases types : typeLine? session with
      | none => exact ⟨rfl, refers_works (by simp)⟩
      | some move => exact (types_of_typeLine? types).relates
  | beginTransition target =>
      refine ⟨rfl, refers_works fun event told => ?_⟩
      have begins : event.call? = none := by
        simp only [beginTransition, List.mem_cons, Task.emit.injEq, reduceCtorEq,
          List.not_mem_nil, or_false] at told
        rw [told]
        rfl
      exact Event.referenced_of_none begins
  | awaitCommit generation target timing =>
      show session.Relates (jobs (awaitCommit session generation target timing))
      unfold awaitCommit
      split
      · exact ⟨rfl, refers_works (by simp)⟩
      · exact ⟨rfl, refers_works (by simp)⟩
  | commit generation target timing =>
      show session.Relates (jobs (commit session generation target timing))
      unfold commit
      split
      · exact ⟨rfl, refers_works (by simp)⟩
      · refine ⟨rfl, refers_works fun event told => ?_⟩
        obtain rfl : event = .transitionCommit target := by simpa using told
        exact Event.referenced_of_none rfl
  | awaitClear generation timing =>
      show session.Relates (jobs (awaitClear session generation timing))
      unfold awaitClear
      split
      · exact ⟨rfl, refers_works (by simp)⟩
      split
      · exact ⟨rfl, refers_works (by simp)⟩
      · exact ⟨rfl, refers_works (by simp)⟩
  | clear generation =>
      show session.Relates (jobs (clear session generation))
      unfold clear
      split
      · exact ⟨rfl, refers_works (by simp)⟩
      · refine ⟨rfl, refers_works fun event told => ?_⟩
        have ends : event.call? = none := by
          simp only [List.mem_singleton, Task.emit.injEq] at told
          rw [told]
          rfl
        exact Event.referenced_of_none ends
  | strike generation =>
      refine ⟨novel_heed _ _, refers_works fun event told => ?_⟩
      rcases heed_tasks (withTyped session _) (tidy_strike _ _ _) with none | ⟨_, _, _, tasks⟩
      · rw [strike, none] at told
        contradiction
      · rw [strike, tasks, List.mem_singleton, Task.emit.injEq] at told
        rw [told]
        exact Event.referenced_of_none rfl
  | request | emit | deliver | script | resume | forgetListeners => contradiction

/-- What the clock has done are tasks of the player and of callbacks. -/
theorem tasks_of_clock {callbacks : Callbacks κ η} {job : Job (Task κ η)}
    (clock : ∀ task, job ≠ .work task) {task : Task κ η}
    (member : .work task ∈ ((clockwork callbacks).step job session).2) :
    task.isMove = true ∨ ∃ caller rest, task = .script caller rest := by
  rcases Clockwork.step_clock_cases clock with
    ⟨_, _, _, others⟩ | ⟨_, _, timer, _, _, fires⟩
  · exact absurd rfl (others _ member task)
  · rw [fires] at member
    have listed : task ∈ ring callbacks timer := by
      simpa [clockwork] using member
    unfold ring at listed
    split at listed
    · exact .inl (List.mem_singleton.mp listed ▸ rfl)
    · exact .inl (List.mem_singleton.mp listed ▸ rfl)
    · exact .inl (List.mem_singleton.mp listed ▸ rfl)
    · exact .inr ⟨_, _, List.mem_singleton.mp listed⟩

/-- No job tells of anything but the novel. -/
private theorem relates_step (referenced : ∀ scene ∈ session.world.novel.scenes, scene.Referenced)
    (callbacks : Callbacks κ η) (job : Job (Task κ η)) :
    session.Relates ((clockwork callbacks).step job session) := by
  have clock (other : ∀ task, job ≠ .work task) :
      session.Relates ((clockwork callbacks).step job session) := by
    refine ⟨congrArg Stage.novel (Clockwork.world_step other), fun event member => ?_⟩
    obtain impossible | ⟨_, _, impossible⟩ := tasks_of_clock other member
    · contradiction
    · contradiction
  cases job with
  | update | drain | drained | flush | flushed => exact clock (by simp)
  | work task =>
      cases task using Task.byKind with
      | move task moves => exact relates_move referenced callbacks moves
      | request made => exact relates_begin session made
      | emit event =>
          refine ⟨rfl, refers_works fun other told => ?_⟩
          obtain ⟨listener, _, impossible⟩ := List.mem_map.mp told
          contradiction
      | hear event =>
          exact ⟨novel_hear session.world event,
            refers_spent (by simp [Clockwork.step, clockwork, act])⟩
      | cue event cue =>
          exact ⟨rfl,
            refers_spent (by simp [Clockwork.step, clockwork, act, Job.all, Task.isSpent])⟩
      | script caller rest =>
          obtain ⟨_, _, same⟩ := world_proceed session caller rest
          have novel : (proceed session caller rest).1.world.novel = session.world.novel := by
            rw [same]
          exact ⟨novel,
            refers_spent (works_proceed (fun _ => rfl) (fun _ _ => rfl) session caller rest)⟩
      | resume caller next =>
          exact ⟨rfl,
            refers_spent (by simp [Clockwork.step, clockwork, act, Job.all, Task.isSpent])⟩
      | forgetListeners => exact ⟨rfl, refers_spent (by simp [Clockwork.step, clockwork, act])⟩

/-! ## What was told -/

structure Withholds (session : Session β κ η)
    (decision : Session β κ η × List (Job (Task κ η))) : Prop where
  chronicle : decision.1.world.chronicle = session.world.chronicle
  unheard : ∀ job ∈ decision.2, job.all Task.isUnheard = true

omit [Device β] [DecidableEq κ] in
private theorem unheard_own {tasks : List (Job (Task κ η))}
    (own : ∀ job ∈ tasks, isOwn job = true) :
    ∀ job ∈ tasks, job.all Task.isUnheard = true := by
  intro job listed
  cases job with
  | work task => exact Task.unheard_of_own (own _ listed)
  | update | drain | drained | flush | flushed => rfl

/-- Beginning a request tells nothing yet. -/
theorem withholds_begin (session : Session β κ η) (made : Request κ) :
    session.Withholds (begin session made) := by
  by_cases plays : made.Plays
  · exact ⟨(tends_begin plays session).chronicle, unheard_own (begin_own plays session).2⟩
  · cases made with
    | toggleMute =>
        simp only [begin]
        split
        · exact ⟨rfl, by simp⟩
        · exact ⟨rfl, by simp⟩
    | close =>
        constructor
        · cases closed : session.world.closed with
          | true => simp [begin, jobs, close, closed]
          | false =>
              obtain ⟨_, _, _, world⟩ := world_close closed
              show (close session).1.world.chronicle = _
              rw [world]
              exact (continues_stopPlayer _).chronicle
        · simp only [begin, close]
          split
          · simp [jobs, Job.all, Task.isUnheard]
          · simp [jobs, Job.all, Task.isUnheard]
    | stop => exact ⟨(continues_stopPlayer session).chronicle, by simp [begin]⟩
    | cancelTimers | later | setMuted | frame | statistics | isClosed =>
        exact ⟨rfl, by simp [begin]⟩
    | gesture made =>
        simp only [begin]
        split
        · exact ⟨rfl, by simp⟩
        · exact ⟨rfl, works_meaning (fun _ => rfl) (fun _ => rfl) session made⟩
    | start | advance | choose | restart | startTyping | skipTyping | update | flush =>
        exact absurd trivial plays

theorem own_of_step (callbacks : Callbacks κ η) {task : Task κ η} (moves : task.isMove = true)
    (session : Session β κ η) : ∃ tasks : List (Task κ η),
      (∀ made ∈ tasks, made.isOwn = true) ∧
        ((clockwork callbacks).step (.work task) session).2 = tasks.map .work := by
  obtain ⟨own, silent⟩ := Task.own_of_move moves
  obtain ⟨move, acts, modest⟩ := modest_act callbacks 0 own silent session
  refine ⟨move.2, modest.own, ?_⟩
  simp only [Clockwork.step, clockwork, acts]
  rfl

/-- Only telling an event is noted and comes to something that the sound is to hear. -/
theorem withholds_step (callbacks : Callbacks κ η) {job : Job (Task κ η)}
    (silent : ∀ event, job ≠ .work (.emit event)) (session : Session β κ η) :
    session.Withholds ((clockwork callbacks).step job session) := by
  have clock (other : ∀ task, job ≠ .work task) :
      session.Withholds ((clockwork callbacks).step job session) := by
    refine ⟨congrArg Stage.chronicle (Clockwork.world_step other), fun next member => ?_⟩
    cases next with
    | update | drain | drained | flush | flushed => rfl
    | work task =>
        obtain moves | ⟨_, _, rfl⟩ := tasks_of_clock other member
        · exact Task.unheard_of_own (Task.own_of_move moves).1
        · rfl
  cases job with
  | update | drain | drained | flush | flushed => exact clock (by simp)
  | work task =>
      cases task using Task.byKind with
      | move task moves =>
          obtain ⟨tasks, own, same⟩ := own_of_step callbacks moves session
          refine ⟨(continues_step callbacks moves session).chronicle, ?_⟩
          rw [same]
          exact unheard_own (map_work_own own)
      | request made => exact withholds_begin session made
      | emit event => exact absurd rfl (silent event)
      | hear event =>
          refine ⟨?_, by simp [Clockwork.step, clockwork, act]⟩
          cases event <;> rfl
      | cue event cue =>
          exact ⟨rfl, by simp [Clockwork.step, clockwork, act, Job.all, Task.isUnheard]⟩
      | script caller rest =>
          obtain ⟨_, _, same⟩ := world_proceed session caller rest
          refine ⟨?_, works_proceed (fun _ => rfl) (fun _ _ => rfl) session caller rest⟩
          show (proceed session caller rest).1.world.chronicle = _
          rw [same]
      | resume | forgetListeners =>
          exact ⟨rfl, by simp [Clockwork.step, clockwork, act, Job.all, Task.isUnheard]⟩

/-- A session tells of its novel only, with what it told and with what it is going to tell. -/
structure Recounts (novel : Novel) (tasks : List (Job (Task κ η))) (session : Session β κ η) :
    Prop where
  novel : session.world.novel = novel
  refers : Refers tasks
  told : ∀ entry ∈ session.world.chronicle, entry.2.Referenced

/-- At every moment a session has told, and is going to tell, of its novel only. -/
theorem Unfolds.recounts {callbacks : Callbacks κ η} {admits : Admission β κ η} {novel : Novel}
    {left tasks : List (Job (Task κ η))} {first : Session β κ η}
    (unfolds : Unfolds callbacks admits left first tasks session)
    (referenced : ∀ scene ∈ novel.scenes, scene.Referenced)
    (recounts : Recounts novel left first) : Recounts novel tasks session := by
  induction unfolds with
  | refl => exact recounts
  | @works job rest before _ _ hypothesis =>
      obtain ⟨novel, refers, told⟩ := hypothesis
      rw [← novel] at referenced
      have relates := relates_step referenced callbacks job
      refine ⟨relates.novel.trans novel, ?_, ?_⟩
      · intro event member
        rcases List.mem_append.mp member with made | waiting
        · exact relates.refers event made
        · exact refers event (List.mem_cons_of_mem _ waiting)
      · -- only telling an event puts it on the chronicle, and it was to be told before
        by_cases tells : ∃ event, job = .work (.emit event)
        · obtain ⟨event, rfl⟩ := tells
          intro entry noted
          rcases List.mem_cons.mp noted with rfl | earlier
          · exact refers event List.mem_cons_self
          · exact told entry earlier
        · have withholds := withholds_step callbacks (fun event same => tells ⟨event, same⟩) before
          rw [withholds.chronicle]
          exact told
  | asks made _ hypothesis =>
      exact ⟨hypothesis.novel, refers_spent (by simp [Job.all, Task.isSpent]), hypothesis.told⟩
  | listens name cue _ hypothesis => exact ⟨hypothesis.novel, hypothesis.refers, hypothesis.told⟩

end Steps

end Session

end VisualNovel.Playback
