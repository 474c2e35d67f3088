import Mathlib.Algebra.GroupWithZero.Nat
import VisualNovel.Proofs.Playback.Simulation

/-!
# What moves leave alone

Whatever a player does besides telling events, it leaves those who listen, the
sound and the notes of the callbacks as they are, sets no timers but its own, and
leaves less to be done than it has taken up.
-/

set_option autoImplicit false

namespace VisualNovel.Playback

open VisualNovel.Clock VisualNovel.Sound

variable {β κ η : Type}

def Alarm.isOwn : Alarm κ → Bool
  | .ring _ => false
  | _ => true

def Task.isOwn : Task κ η → Bool
  | .reply _ | .replyCount | .emit _ | .enterScene | .enterDialogue | .typeLine
  | .beginTransition _ | .awaitCommit _ _ _ | .commit _ _ _ | .awaitClear _ _ | .clear _
  | .strike _ => true
  | .request _ | .deliver _ _ | .script _ _ | .resume _ _ | .forgetListeners => false

/-- How many tasks the player does at most for one of its tasks, where telling an event takes a
given number of them. -/
def Task.effort (telling : Nat) : Task κ η → Nat
  | .emit _ => telling
  | .reply _ | .replyCount => 1
  | .typeLine | .strike _ | .clear _ => telling + 1
  | .enterDialogue => 2 * telling + 2
  | .enterScene => 3 * telling + 3
  | .awaitClear _ _ => telling + 2
  | .commit _ _ _ => 5 * telling + 6
  | .awaitCommit _ _ _ => 5 * telling + 7
  | .beginTransition _ => 6 * telling + 8
  | .request _ | .deliver _ _ | .script _ _ | .resume _ _ | .forgetListeners => 0

def efforts (telling : Nat) (tasks : List (Task κ η)) : Nat :=
  (tasks.map (Task.effort telling)).sum

def OwnAlarms (timeline : Timeline (Alarm κ)) : Prop :=
  ∀ timer ∈ timeline.pending, timer.payload.isOwn = true

theorem OwnAlarms.later {timeline : Timeline (Alarm κ)} (own : OwnAlarms timeline) (delay : Int)
    (label : String) {alarm : Alarm κ} (isOwn : alarm.isOwn = true) :
    OwnAlarms (timeline.later delay label alarm).2 := by
  unfold Timeline.later
  dsimp only
  split
  · exact own
  · intro timer member
    rcases mem_insertTimer.mp member with rfl | member
    · exact isOwn
    · exact own timer member

theorem OwnAlarms.cancel {timeline : Timeline (Alarm κ)} (own : OwnAlarms timeline)
    (number : Nat) : OwnAlarms (timeline.cancel number) :=
  fun timer member => own timer (List.mem_filter.mp member).1

theorem OwnAlarms.cancel? {timeline : Timeline (Alarm κ)} (own : OwnAlarms timeline)
    (number : Option Nat) : OwnAlarms (timeline.cancel? number) := by
  cases number with
  | none => exact own
  | some number => exact own.cancel number

theorem OwnAlarms.setTimer {timeline : Timeline (Alarm κ)} (own : OwnAlarms timeline)
    (typewriter : Typewriter) : OwnAlarms (typewriter.setTimer .strike timeline).timeline :=
  own.later _ _ rfl

theorem OwnAlarms.start {timeline : Timeline (Alarm κ)} (own : OwnAlarms timeline)
    (typewriter : Typewriter) (text : String) :
    OwnAlarms (typewriter.start .strike text timeline).2.timeline := by
  unfold Typewriter.start
  rw [Typewriter.cancel_eq]
  dsimp only
  split
  · exact own.cancel? _
  · split
    · exact own.cancel? _
    · exact (own.cancel? _).setTimer _

theorem OwnAlarms.strike {timeline : Timeline (Alarm κ)} (own : OwnAlarms timeline)
    (typewriter : Typewriter) (generation : Nat) :
    OwnAlarms (typewriter.strike .strike generation timeline).2.timeline := by
  unfold Typewriter.strike
  split
  · dsimp only
    split
    · exact own
    · exact own.setTimer _
  · exact own

theorem OwnAlarms.skip? {timeline : Timeline (Alarm κ)} (own : OwnAlarms timeline)
    {typewriter : Typewriter} {skipped : Signal × Typed (Alarm κ)}
    (skips : typewriter.skip? timeline = some skipped) : OwnAlarms skipped.2.timeline := by
  rw [Typewriter.skip?_eq] at skips
  split at skips
  · contradiction
  · obtain rfl := Option.some.inj skips
    exact own.cancel? _

structure Audience (β κ η : Type) where
  listeners : List (String × List (Listener κ))
  sound : Coordinator β
  notes : η

namespace Session

def audience (session : Session β κ η) : Audience β κ η :=
  ⟨session.world.bus.listeners, session.world.sound, session.world.notes⟩

structure Undisturbed (session : Session β κ η) : Prop where
  isOpen : session.world.closed = false
  playing : session.world.stopped = false
  alarms : OwnAlarms session.timeline

/-- Nothing was done from one session to the other that those who listen could tell. -/
structure Keeps (session next : Session β κ η) : Prop where
  audience : next.audience = session.audience
  undisturbed : session.Undisturbed → next.Undisturbed

theorem Keeps.refl (session : Session β κ η) : session.Keeps session :=
  ⟨rfl, id⟩

theorem Keeps.trans {session middle next : Session β κ η} (first : session.Keeps middle)
    (second : middle.Keeps next) : session.Keeps next :=
  ⟨second.audience.trans first.audience, second.undisturbed ∘ first.undisturbed⟩

/-- A move of the player, which leaves at most so much to be done. -/
structure Modest (session : Session β κ η) (telling effort : Nat) (move : Move β κ η) : Prop where
  keeps : session.Keeps move.1
  own : ∀ task ∈ move.2, task.isOwn = true
  within : efforts telling move.2 ≤ effort

variable {session next : Session β κ η} {telling effort : Nat}

theorem keeps_of_same (audience : next.audience = session.audience)
    (closed : next.world.closed = session.world.closed)
    (stopped : next.world.stopped = session.world.stopped)
    (timeline : next.timeline = session.timeline) : session.Keeps next :=
  ⟨audience, fun undisturbed => ⟨closed.trans undisturbed.isOpen,
    stopped.trans undisturbed.playing, timeline ▸ undisturbed.alarms⟩⟩

theorem keeps_withPosition (session : Session β κ η) (change : Position → Position) :
    session.Keeps (withPosition session change) :=
  keeps_of_same rfl rfl rfl rfl

theorem keeps_withTyped {typed : Typed (Alarm κ)}
    (own : OwnAlarms session.timeline → OwnAlarms typed.timeline) :
    session.Keeps (withTyped session typed) :=
  ⟨rfl, fun undisturbed =>
    ⟨undisturbed.isOpen, undisturbed.playing, own undisturbed.alarms⟩⟩

theorem keeps_stopTyping (session : Session β κ η) : session.Keeps (stopTyping session) := by
  refine keeps_withTyped fun own => ?_
  rw [Typewriter.cancel_eq]
  exact own.cancel? _

private theorem keeps_cancelTransition (session : Session β κ η) :
    session.Keeps (cancelTransition session) := by
  have cancels : (cancelTransition session).timeline =
      session.timeline.cancel? session.world.transition := rfl
  refine ⟨rfl, fun undisturbed => ⟨undisturbed.isOpen, undisturbed.playing, ?_⟩⟩
  rw [cancels]
  exact undisturbed.alarms.cancel? _

private theorem keeps_setPhase (session : Session β κ η) (delay : Int) (label : String)
    {alarm : Alarm κ} (isOwn : alarm.isOwn = true) :
    session.Keeps (setPhase session delay label alarm) :=
  ⟨rfl, fun undisturbed =>
    ⟨undisturbed.isOpen, undisturbed.playing, undisturbed.alarms.later delay label isOwn⟩⟩

theorem Modest.after (keeps : session.Keeps next) {move : Move β κ η}
    (modest : next.Modest telling effort move) : session.Modest telling effort move :=
  ⟨keeps.trans modest.keeps, modest.own, modest.within⟩

theorem Modest.reply {move : Move β κ η} (modest : session.Modest telling effort move)
    (answer : Answer) :
    session.Modest telling (effort + 1) (move.1, move.2 ++ [.reply answer]) where
  keeps := modest.keeps
  own task member := by
    rcases List.mem_append.mp member with member | member
    · exact modest.own task member
    · obtain rfl := List.mem_singleton.mp member
      rfl
  within := by
    have within := modest.within
    simp only [efforts, List.map_append, List.sum_append, List.map_cons, List.map_nil,
      List.sum_cons, List.sum_nil, Task.effort] at within ⊢
    omega

theorem modest_heed {signals : List Signal} (session : Session β κ η) (tidy : Tidy signals) :
    session.Modest telling telling (heed session signals) := by
  induction signals generalizing session with
  | nil => exact ⟨.refl session, fun _ member => absurd member List.not_mem_nil, Nat.zero_le _⟩
  | cons signal signals hypothesis =>
      cases signal with
      | progress revealed => exact (hypothesis _ tidy).after (keeps_withPosition session _)
      | complete skipped =>
          obtain rfl : signals = [] := tidy
          exact ⟨keeps_of_same rfl rfl rfl rfl, by simp [heed, Task.isOwn],
            by simp [heed, efforts, Task.effort]⟩

private theorem modest_typeLine? {move : Move β κ η} (types : typeLine? session = some move) :
    session.Modest telling telling move := by
  unfold typeLine? at types
  dsimp only at types
  split at types
  · contradiction
  · next dialogue _ =>
      split at types
      · contradiction
      · obtain rfl := Option.some.inj types
        exact ((modest_heed _ (tidy_start _ _ _)).after
          (keeps_withTyped fun own => own.start _ dialogue.text)).after
            (keeps_withPosition session _)

private theorem modest_strike (session : Session β κ η) (generation : Nat) :
    session.Modest telling telling (strike session generation) :=
  (modest_heed _ (tidy_strike _ _ _)).after (keeps_withTyped fun own => own.strike _ generation)

private theorem modest_enterDialogue (session : Session β κ η) :
    session.Modest telling (2 * telling + 1) (enterDialogue session) := by
  unfold enterDialogue
  cases session.world.dialogue? with
  | none =>
      exact ⟨(keeps_withPosition session _).trans (keeps_stopTyping _),
        fun _ member => absurd member List.not_mem_nil, Nat.zero_le _⟩
  | some dialogue =>
      refine ⟨keeps_of_same rfl rfl rfl rfl, by simp [Task.isOwn], ?_⟩
      simp only [efforts, List.map_cons, List.map_nil, List.sum_cons, List.sum_nil, Task.effort]
      omega

private theorem modest_enterScene (session : Session β κ η) :
    session.Modest telling (3 * telling + 2) (enterScene session) := by
  refine ⟨keeps_of_same rfl rfl rfl rfl, by simp [enterScene, Task.isOwn], ?_⟩
  simp only [enterScene, efforts, List.map_cons, List.map_nil, List.sum_cons, List.sum_nil,
    Task.effort]
  omega

private theorem modest_clear (session : Session β κ η) (generation : Nat) :
    session.Modest telling telling (clear session generation) := by
  unfold clear
  split
  · exact ⟨.refl session, by simp, by simp [efforts]⟩
  · exact ⟨keeps_of_same rfl rfl rfl rfl, by simp [Task.isOwn], by simp [efforts, Task.effort]⟩

private theorem modest_awaitClear (session : Session β κ η) (generation : Nat) (timing : Timing) :
    session.Modest telling (telling + 1) (awaitClear session generation timing) := by
  unfold awaitClear
  split
  · exact ⟨.refl session, by simp, by simp [efforts]⟩
  · split
    · exact ⟨.refl session, by simp [Task.isOwn], by simp [efforts, Task.effort]⟩
    · exact ⟨keeps_setPhase session _ _ rfl, by simp, by simp [efforts]⟩

private theorem modest_commit (session : Session β κ η) (generation : Nat) (target : Int)
    (timing : Timing) :
    session.Modest telling (5 * telling + 5) (commit session generation target timing) := by
  unfold commit
  split
  · exact ⟨.refl session, by simp, by simp [efforts]⟩
  · refine ⟨keeps_of_same rfl rfl rfl rfl, by simp [Task.isOwn], ?_⟩
    simp only [efforts, List.map_cons, List.map_nil, List.sum_cons, List.sum_nil, Task.effort]
    omega

private theorem modest_awaitCommit (session : Session β κ η) (generation : Nat) (target : Int)
    (timing : Timing) :
    session.Modest telling (5 * telling + 6) (awaitCommit session generation target timing) := by
  unfold awaitCommit
  split
  · exact ⟨.refl session, by simp [Task.isOwn], by simp [efforts, Task.effort]⟩
  · exact ⟨keeps_setPhase session _ _ rfl, by simp, by simp [efforts]⟩

private theorem modest_beginTransition (session : Session β κ η) (target : Int) :
    session.Modest telling (6 * telling + 7) (beginTransition session target) := by
  refine ⟨((keeps_stopTyping session).trans (keeps_withPosition _ _)).trans
    ((keeps_cancelTransition _).trans (keeps_of_same rfl rfl rfl rfl)),
    by simp [beginTransition, Task.isOwn], ?_⟩
  simp only [beginTransition, efforts, List.map_cons, List.map_nil, List.sum_cons,
    List.sum_nil, Task.effort]
  omega

theorem modest_refuse (session : Session β κ η) :
    session.Modest telling 1 (refuse session) :=
  ⟨.refl session, by simp [refuse, Task.isOwn], by simp [refuse, efforts, Task.effort]⟩

theorem Modest.mono {more : Nat} {move : Move β κ η} (modest : session.Modest telling effort move)
    (enough : effort ≤ more) : session.Modest telling more move :=
  ⟨modest.keeps, modest.own, modest.within.trans enough⟩

theorem modest_start (session : Session β κ η) :
    session.Modest telling (3 * telling + 4) (start session) := by
  unfold start
  dsimp only
  split
  · exact (modest_refuse session).mono (by omega)
  · split
    · refine Modest.after ?_ ((modest_refuse _).mono (by omega : 1 ≤ 3 * telling + 4))
      exact keeps_of_same rfl rfl rfl rfl
    · refine ⟨keeps_of_same rfl rfl rfl rfl, by simp [Task.isOwn], ?_⟩
      simp only [efforts, List.map_cons, List.map_nil, List.sum_cons, List.sum_nil, Task.effort]
      omega

theorem modest_startTyping (session : Session β κ η) :
    session.Modest telling (telling + 1) (startTyping session) := by
  unfold startTyping
  cases types : typeLine? session with
  | none => exact (modest_refuse session).mono (by omega)
  | some move => exact (modest_typeLine? types).reply _

theorem modest_skipTyping (session : Session β κ η) :
    session.Modest telling (telling + 1) (skipTyping session) := by
  unfold skipTyping
  dsimp only
  split
  · cases skips : session.world.typewriter.skip? session.timeline with
    | none => exact (modest_refuse session).mono (by omega)
    | some skipped =>
        exact (((modest_heed _ (tidy_singleton skipped.1)).after
          (keeps_withTyped fun own => own.skip? skips)).reply _)
  · exact (modest_refuse session).mono (by omega)

private theorem modest_finish (session : Session β κ η) :
    session.Modest telling (telling + 1) (finish session) :=
  ⟨(keeps_stopTyping session).trans (keeps_of_same rfl rfl rfl rfl),
    by simp [finish, Task.isOwn], by simp [finish, efforts, Task.effort]⟩

/-- Going on takes a bounded number of steps. -/
theorem modest_advance (session : Session β κ η) :
    session.Modest telling (6 * telling + 9) (advance session) := by
  unfold advance
  dsimp only
  split
  · exact (modest_refuse session).mono (by omega)
  split
  · exact (modest_skipTyping session).mono (by omega)
  split
  · exact (modest_refuse session).mono (by omega)
  split
  · refine ⟨keeps_of_same rfl rfl rfl rfl, by simp [Task.isOwn], ?_⟩
    simp only [efforts, List.map_cons, List.map_nil, List.sum_cons, List.sum_nil, Task.effort]
    omega
  split
  · refine ⟨.refl session, by simp [Task.isOwn], ?_⟩
    simp only [efforts, List.map_cons, List.map_nil, List.sum_cons, List.sum_nil, Task.effort]
    omega
  · exact (modest_finish session).mono (by omega)

theorem modest_choose (session : Session β κ η) (choiceId : String) :
    session.Modest telling (7 * telling + 9) (choose session choiceId) := by
  unfold choose
  dsimp only
  split
  · exact (modest_refuse session).mono (by omega)
  split
  · exact (modest_refuse session).mono (by omega)
  split
  · exact (modest_refuse session).mono (by omega)
  · refine ⟨.refl session, by simp [Task.isOwn], ?_⟩
    simp only [efforts, List.map_cons, List.map_nil, List.sum_cons, List.sum_nil, Task.effort]
    omega

theorem modest_restart (session : Session β κ η) :
    session.Modest telling (4 * telling + 4) (restart session) := by
  unfold restart
  dsimp only
  split
  · exact (modest_refuse session).mono (by omega)
  · refine ⟨((keeps_stopTyping session).trans (keeps_cancelTransition _)).trans
      (keeps_of_same rfl rfl rfl rfl), by simp [Task.isOwn], ?_⟩
    simp only [efforts, List.map_cons, List.map_nil, List.sum_cons, List.sum_nil, Task.effort]
    omega

theorem modest_whenOpen {move : Move β κ η} (modest : session.Modest telling effort move)
    (some : 1 ≤ effort) : session.Modest telling effort (whenOpen session move) := by
  unfold whenOpen
  split
  · exact (modest_refuse session).mono some
  · exact modest

/-! ## Tasks -/

variable [Device β] [DecidableEq κ]

/-- A task of the player other than telling an event leaves less to be done than itself. -/
theorem modest_act (callbacks : Callbacks κ η) (telling : Nat) {task : Task κ η}
    (own : task.isOwn = true) (silent : ∀ event, task ≠ .emit event) (session : Session β κ η) :
    ∃ move, act callbacks task session = jobs move ∧
      session.Modest telling (task.effort telling - 1) move := by
  cases task with
  | reply answer =>
      exact ⟨(session.reply answer, []), rfl, keeps_of_same rfl rfl rfl rfl, by simp,
        by simp [efforts]⟩
  | replyCount =>
      exact ⟨(session.reply (.count session.ran), []), rfl, keeps_of_same rfl rfl rfl rfl,
        by simp, by simp [efforts]⟩
  | enterScene => exact ⟨_, rfl, modest_enterScene session⟩
  | enterDialogue => exact ⟨_, rfl, modest_enterDialogue session⟩
  | typeLine =>
      refine ⟨_, rfl, ?_⟩
      cases types : typeLine? session with
      | none => exact ⟨.refl session, by simp, by simp [efforts]⟩
      | some move => exact modest_typeLine? types
  | beginTransition target => exact ⟨_, rfl, modest_beginTransition session target⟩
  | awaitCommit generation target timing =>
      exact ⟨_, rfl, modest_awaitCommit session generation target timing⟩
  | commit generation target timing =>
      exact ⟨_, rfl, modest_commit session generation target timing⟩
  | awaitClear generation timing => exact ⟨_, rfl, modest_awaitClear session generation timing⟩
  | clear generation => exact ⟨_, rfl, modest_clear session generation⟩
  | strike generation => exact ⟨_, rfl, modest_strike session generation⟩
  | emit event => exact absurd rfl (silent event)
  | request | deliver | script | resume | forgetListeners => contradiction

end Session

end VisualNovel.Playback
