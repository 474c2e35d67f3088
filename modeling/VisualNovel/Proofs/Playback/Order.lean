import VisualNovel.Proofs.Playback.Telling

/-!
# What waits for what

Callbacks that make no moves of their own on an event close no session. Whatever may
close one is asked for by the host or by a timer, and what waits for that does nothing
to a session that is closed.
-/

set_option autoImplicit false

namespace VisualNovel.Playback

open VisualNovel.Agenda VisualNovel.Clock VisualNovel.Event VisualNovel.Novel VisualNovel.Sound

variable {β κ η : Type}

def Task.IsTame : Task κ η → Prop
  | .request made => made.Quiet
  | .script _ rest => rest.Asks Request.Quiet
  | .resume _ next => ∀ given, (next given).Asks Request.Quiet
  | _ => True

/-- Whether nothing comes of a job but tame tasks. What the clock does may come to anything. -/
def IsTame : Job (Task κ η) → Prop
  | .work task => task.IsTame
  | _ => False

/-- Where a job is not tame, what waits for it is spent once the session is closed. -/
def Ordered (tasks : List (Job (Task κ η))) : Prop :=
  tasks.Pairwise fun above below => IsTame above ∨ below.all Task.isSpent = true

private theorem Task.tame_of_own {task : Task κ η} (own : task.isOwn = true) : task.IsTame := by
  cases task with
  | request | deliver | script | resume | forgetListeners => contradiction
  | reply | replyCount | emit | enterScene | enterDialogue | typeLine | beginTransition
  | awaitCommit | commit | awaitClear | clear | strike => trivial

theorem ordered_of_tame {tasks : List (Job (Task κ η))} (tame : ∀ job ∈ tasks, IsTame job) :
    Ordered tasks :=
  List.pairwise_of_forall_mem_list fun above listed _ _ => .inl (tame above listed)

theorem ordered_of_spent {first : Job (Task κ η)} {tasks : List (Job (Task κ η))}
    (spent : ∀ job ∈ tasks, job.all Task.isSpent = true) : Ordered (first :: tasks) :=
  List.pairwise_cons.mpr ⟨fun below listed => .inr (spent below listed),
    List.pairwise_of_forall_mem_list fun _ _ below listed => .inr (spent below listed)⟩

theorem ordered_nil : Ordered ([] : List (Job (Task κ η))) :=
  List.Pairwise.nil

theorem ordered_single (job : Job (Task κ η)) : Ordered [job] :=
  ordered_of_spent (by simp)

namespace Session

variable [Device β] [DecidableEq κ] {session : Session β κ η} {callbacks : Callbacks κ η}

omit [Device β] [DecidableEq κ] in
theorem tame_works {tasks : List (Task κ η)} (own : ∀ task ∈ tasks, task.isOwn = true) :
    ∀ job ∈ tasks.map Job.work, IsTame job := by
  intro job member
  obtain ⟨task, listed, rfl⟩ := List.mem_map.mp member
  exact Task.tame_of_own (own task listed)

private theorem tame_move {made : Request κ} {move : Move β κ η}
    (asked : made.move? session = some move)
    (plays : made.Plays) : ∀ job ∈ (begin session made).2, IsTame job := by
  have own := (begin_own plays session).2
  obtain ⟨decision, begun, _⟩ := decides_begin asked
  rw [begun] at own ⊢
  exact tame_works fun task listed => own _ (List.mem_map_of_mem listed)

/-- Of what a request leaves to be done, only what is spent waits for a job that is not tame. -/
private theorem ordered_begin (session : Session β κ η) (made : Request κ) :
    Ordered (begin session made).2 := by
  cases made with
  | start | advance | choose | restart | startTyping | skipTyping =>
      exact ordered_of_tame (tame_move rfl trivial)
  | update time =>
      simp only [begin]
      split
      · exact ordered_nil
      · exact ordered_of_spent (by simp [Job.all, Task.isSpent])
  | flush limit => exact ordered_of_spent (by simp [Job.all, Task.isSpent])
  | close =>
      apply ordered_of_tame
      simp only [begin, close]
      split
      · exact tame_works (by simp [Task.isOwn])
      · intro job member
        simp only [jobs, List.map_cons, List.map_nil, List.mem_cons, List.not_mem_nil,
          or_false] at member
        rcases member with rfl | rfl | rfl <;> trivial
  | toggleMute | stop | cancelTimers | later | setMuted | frame | statistics | isClosed =>
      exact ordered_nil
  | gesture made =>
      simp only [begin]
      split
      · exact ordered_nil
      · cases made with
        | key name =>
            simp only [jobs, meaning]
            repeat' split
            all_goals exact ordered_of_spent (by simp [Job.all, Task.isSpent])
        | click | pick | replay | tick | leave => exact ordered_single _

private theorem tame_emit (callbacks : Callbacks κ η) (session : Session β κ η) (event : Event) :
    ∀ job ∈ ((clockwork callbacks).step (.work (.emit event)) session).2, IsTame job := by
  intro job member
  obtain ⟨task, listed, rfl⟩ := List.mem_map.mp member
  obtain ⟨listener, _, rfl⟩ := List.mem_map.mp listed
  trivial

private theorem tame_own (callbacks : Callbacks κ η) {task : Task κ η} (moves : task.isMove = true)
    (session : Session β κ η) :
    ∀ job ∈ ((clockwork callbacks).step (.work task) session).2, IsTame job := by
  obtain ⟨tasks, own, same⟩ := own_of_step callbacks moves session
  rw [same]
  exact tame_works own

/-- Of what a job leaves to be done, only what is spent waits for a job that is not tame. -/
private theorem ordered_step (callbacks : Callbacks κ η) (job : Job (Task κ η))
    (session : Session β κ η) : Ordered ((clockwork callbacks).step job session).2 := by
  cases job with
  | update time =>
      simp only [Clockwork.step]
      split
      · exact ordered_nil
      · exact ordered_single _
  | drain time ran =>
      simp only [Clockwork.step]
      split
      · exact ordered_nil
      · next timer timeline _ =>
          show Ordered ((ring callbacks timer).map Job.work ++ [Job.drained time (ran + 1)])
          unfold ring
          split
          all_goals exact ordered_of_spent (by simp [Job.all])
  | drained time ran =>
      simp only [Clockwork.step]
      split
      · exact ordered_nil
      · exact ordered_single _
  | flush limit ran =>
      simp only [Clockwork.step]
      split
      · exact ordered_nil
      split
      · exact ordered_nil
      · exact ordered_of_spent (by simp [Job.all])
  | flushed limit ran => exact ordered_single _
  | work task =>
      cases task using Task.byKind with
      | move task moves => exact ordered_of_tame (tame_own callbacks moves session)
      | request made => exact ordered_begin session made
      | emit event => exact ordered_of_tame (tame_emit callbacks session event)
      | hear event => exact ordered_nil
      | cue event cue => exact ordered_single _
      | script caller rest =>
          simp only [Clockwork.step, clockwork, act, jobs, proceed]
          split
          · exact ordered_nil
          · exact ordered_nil
          · exact ordered_of_spent (by simp [Job.all, Task.isSpent])
      | resume caller next => exact ordered_single _
      | forgetListeners => exact ordered_nil

/-- What comes of tame jobs is tame, where callbacks make no moves on an event. -/
theorem tame_step (quiet : callbacks.Quiet) {job : Job (Task κ η)} (tame : IsTame job)
    (session : Session β κ η) :
    ∀ next ∈ ((clockwork callbacks).step job session).2, IsTame next := by
  cases job with
  | update | drain | drained | flush | flushed => exact absurd tame id
  | work task =>
      cases task using Task.byKind with
      | move task moves => exact tame_own callbacks moves session
      | request made =>
          cases made with
          | toggleMute | setMuted | frame | statistics | isClosed =>
              simp [Clockwork.step, clockwork, act, begin]
          | start | advance | choose | restart | update | close | startTyping | skipTyping
          | stop | flush | cancelTimers | later | gesture => exact absurd tame id
      | emit event => exact tame_emit callbacks session event
      | hear event => simp [Clockwork.step, clockwork, act]
      | cue event cue =>
          intro next member
          obtain rfl := List.mem_singleton.mp member
          exact quiet cue event
      | script caller rest =>
          simp only [Clockwork.step, clockwork, act, jobs, proceed]
          cases paused : rest.proceed session.world.notes with
          | mk pause notes =>
              cases pause with
              | done | failed => simp
              | asks made next =>
                  obtain ⟨allowed, later⟩ := Script.Asks.proceed tame paused
                  intro job member
                  simp only [List.map_cons, List.map_nil, List.mem_cons, List.not_mem_nil,
                    or_false] at member
                  rcases member with rfl | rfl
                  · exact allowed
                  · exact later
      | resume caller next =>
          intro job member
          obtain rfl := List.mem_singleton.mp member
          exact tame session.world.answer
      | forgetListeners => simp [Clockwork.step, clockwork, act]

/-- Where callbacks make no moves, only what is spent ever waits for a job that is not tame. -/
theorem Unfolds.ordered {admits : Admission β κ η} {left tasks : List (Job (Task κ η))}
    {first : Session β κ η} (unfolds : Unfolds callbacks admits left first tasks session)
    (quiet : callbacks.Quiet) (ordered : Ordered left) : Ordered tasks := by
  induction unfolds with
  | refl => exact ordered
  | @works job rest before _ _ hypothesis =>
      obtain ⟨waits, waiting⟩ := List.pairwise_cons.mp hypothesis
      apply List.pairwise_append.mpr
      refine ⟨ordered_step callbacks job before, waiting, ?_⟩
      intro made listed below waited
      -- a job that is not tame leaves the order to what is spent
      rcases waits below waited with tame | spent
      · exact .inl (tame_step quiet tame before made listed)
      · exact .inr spent
  | asks made _ _ => exact ordered_single _
  | listens name cue _ hypothesis => exact hypothesis

end Session

end VisualNovel.Playback
