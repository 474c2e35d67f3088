import VisualNovel.Proofs.Clock.Tending
import VisualNovel.Proofs.Playback.Decisions
import VisualNovel.Proofs.Playback.Frames

/-!
# What players do in any state

Whatever the state of a session, its player sets and cancels timers, and changes
the line and the transition. Those who listen, the sound, the events told so far
and whether the session is open are not its business. Only starting, ending and
restarting a playback tell whether one is under way.
-/

set_option autoImplicit false

namespace VisualNovel.Playback

open VisualNovel.Agenda VisualNovel.Clock VisualNovel.Event VisualNovel.Novel VisualNovel.Sound

variable {β κ η : Type}

def Task.isMove : Task κ η → Bool
  | .emit _ => false
  | task => task.isOwn

/-- A task is part of a move, or it has to do with the host, with events or with callbacks. -/
@[elab_as_elim]
theorem Task.byKind {motive : Task κ η → Prop} (move : ∀ task, task.isMove = true → motive task)
    (request : ∀ made, motive (.request made)) (emit : ∀ event, motive (.emit event))
    (hear : ∀ event, motive (.deliver event .sound))
    (cue : ∀ event cue, motive (.deliver event (.cue cue)))
    (script : ∀ caller rest, motive (.script caller rest))
    (resume : ∀ caller next, motive (.resume caller next))
    (forgetListeners : motive .forgetListeners) (task : Task κ η) : motive task := by
  cases task with
  | request made => exact request made
  | emit event => exact emit event
  | deliver event listener =>
      cases listener with
      | sound => exact hear event
      | cue name => exact cue event name
  | script caller rest => exact script caller rest
  | resume caller next => exact resume caller next
  | forgetListeners => exact forgetListeners
  | reply | replyCount | enterScene | enterDialogue | typeLine | beginTransition | awaitCommit
  | commit | awaitClear | clear | strike => exact move _ rfl

structure Outline (β κ : Type) where
  bus : Bus (Listener κ)
  sound : Coordinator β
  stopped : Bool
  closed : Bool
  chronicle : List (Int × Event)

namespace Typewriter

variable {typewriter : Typewriter} {timeline : Timeline (Alarm κ)}

theorem tends_cancel (typewriter : Typewriter) (timeline : Timeline (Alarm κ)) :
    timeline.Tends (typewriter.cancel timeline).timeline := by
  rw [cancel_eq]
  exact Timeline.Tends.refl.cancel? _

theorem tends_start (typewriter : Typewriter) (timeline : Timeline (Alarm κ)) (text : String) :
    timeline.Tends (typewriter.start .strike text timeline).2.timeline := by
  unfold start
  rw [cancel_eq]
  dsimp only
  split
  · exact Timeline.Tends.refl.cancel? _
  · split
    · exact Timeline.Tends.refl.cancel? _
    · exact (Timeline.Tends.refl.cancel? _).later _ _ _

theorem tends_strike (typewriter : Typewriter) (timeline : Timeline (Alarm κ))
    (generation : Nat) :
    timeline.Tends (typewriter.strike .strike generation timeline).2.timeline := by
  unfold strike
  split
  · dsimp only
    split
    · exact .refl
    · exact Timeline.Tends.refl.later _ _ _
  · exact .refl

private theorem tends_skip? {skipped : Signal × Typed (Alarm κ)}
    (skips : typewriter.skip? timeline = some skipped) :
    timeline.Tends skipped.2.timeline := by
  rw [skip?_eq] at skips
  split at skips
  · contradiction
  · obtain rfl := Option.some.inj skips
    exact Timeline.Tends.refl.cancel? _

end Typewriter

namespace Session

def outline (session : Session β κ η) : Outline β κ where
  bus := session.world.bus
  sound := session.world.sound
  stopped := session.world.stopped
  closed := session.world.closed
  chronicle := session.world.chronicle

structure Tends (session next : Session β κ η) : Prop where
  outline : next.outline = session.outline
  timeline : session.timeline.Tends next.timeline

structure Continues (session next : Session β κ η) : Prop extends Tends session next where
  started : next.world.started = session.world.started
  finished : next.world.position.finished = session.world.position.finished

variable {session middle next : Session β κ η}

theorem Tends.bus (tends : session.Tends next) : next.world.bus = session.world.bus :=
  congrArg Outline.bus tends.outline

theorem Tends.sound (tends : session.Tends next) : next.world.sound = session.world.sound :=
  congrArg Outline.sound tends.outline

theorem Tends.stopped (tends : session.Tends next) :
    next.world.stopped = session.world.stopped :=
  congrArg Outline.stopped tends.outline

theorem Tends.closed (tends : session.Tends next) : next.world.closed = session.world.closed :=
  congrArg Outline.closed tends.outline

theorem Tends.chronicle (tends : session.Tends next) :
    next.world.chronicle = session.world.chronicle :=
  congrArg Outline.chronicle tends.outline

theorem Tends.trans (first : session.Tends middle) (second : middle.Tends next) :
    session.Tends next :=
  ⟨second.outline.trans first.outline, first.timeline.trans second.timeline⟩

theorem Continues.refl (session : Session β κ η) : session.Continues session :=
  ⟨⟨rfl, .refl⟩, rfl, rfl⟩

theorem Continues.trans (first : session.Continues middle) (second : middle.Continues next) :
    session.Continues next :=
  ⟨first.toTends.trans second.toTends, second.started.trans first.started,
    second.finished.trans first.finished⟩

theorem Continues.after (later : middle.Continues next) (earlier : session.Continues middle) :
    session.Continues next :=
  earlier.trans later

/-! ## Lines -/

theorem tends_of_same (outline : next.outline = session.outline)
    (timeline : next.timeline = session.timeline) : session.Tends next :=
  ⟨outline, timeline ▸ .refl⟩

theorem continues_of_same (outline : next.outline = session.outline)
    (timeline : next.timeline = session.timeline)
    (started : next.world.started = session.world.started)
    (finished : next.world.position.finished = session.world.position.finished) :
    session.Continues next :=
  ⟨tends_of_same outline timeline, started, finished⟩

theorem continues_withTyped {typed : Typed (Alarm κ)}
    (tends : session.timeline.Tends typed.timeline) :
    session.Continues (withTyped session typed) :=
  ⟨⟨rfl, tends⟩, rfl, rfl⟩

theorem continues_stopTyping (session : Session β κ η) :
    session.Continues (stopTyping session) :=
  continues_withTyped (Typewriter.tends_cancel _ _)

theorem continues_heed (session : Session β κ η) (signals : List Signal) :
    session.Continues (heed session signals).1 := by
  induction signals generalizing session with
  | nil => exact .refl session
  | cons signal signals hypothesis =>
      cases signal with
      | progress revealed => exact (hypothesis _).after (continues_of_same rfl rfl rfl rfl)
      | complete skipped => exact (hypothesis _).after (continues_of_same rfl rfl rfl rfl)

theorem Types.continues {move : Move β κ η} (types : session.Types move) :
    session.Continues move.1 := by
  cases types with
  | begins dialogue _ _ =>
      refine (continues_heed _ _).after ((continues_withTyped ?_).after
        (continues_of_same rfl rfl rfl rfl))
      exact Typewriter.tends_start _ _ _
  | skips _ skips =>
      exact (continues_heed _ _).after (continues_withTyped (Typewriter.tends_skip? skips))

private theorem continues_strike (session : Session β κ η) (generation : Nat) :
    session.Continues (strike session generation).1 :=
  (continues_withTyped (Typewriter.tends_strike _ _ _)).trans (continues_heed _ _)

private theorem continues_enterDialogue (session : Session β κ η) :
    session.Continues (enterDialogue session).1 := by
  unfold enterDialogue
  cases session.world.dialogue? with
  | none => exact (continues_stopTyping _).after (continues_of_same rfl rfl rfl rfl)
  | some dialogue => exact continues_of_same rfl rfl rfl rfl

/-! ## Transitions -/

theorem continues_cancelTransition (session : Session β κ η) :
    session.Continues (cancelTransition session) := by
  have cancels : (cancelTransition session).timeline =
      session.timeline.cancel? session.world.transition := rfl
  refine ⟨⟨rfl, ?_⟩, rfl, rfl⟩
  rw [cancels]
  exact Timeline.Tends.refl.cancel? _

private theorem continues_setPhase (session : Session β κ η) (delay : Int) (label : String)
    (alarm : Alarm κ) : session.Continues (setPhase session delay label alarm) :=
  ⟨⟨rfl, Timeline.Tends.refl.later delay label alarm⟩, rfl, rfl⟩

private theorem continues_beginTransition (session : Session β κ η) (target : Int) :
    session.Continues (beginTransition session target).1 :=
  ((continues_stopTyping session).trans (continues_of_same rfl rfl rfl rfl)).trans
    ((continues_cancelTransition _).trans (continues_of_same rfl rfl rfl rfl))

private theorem continues_awaitCommit (session : Session β κ η) (generation : Nat) (target : Int)
    (timing : Timing) :
    session.Continues (awaitCommit session generation target timing).1 := by
  unfold awaitCommit
  split
  · exact .refl session
  · exact continues_setPhase session _ _ _

private theorem continues_commit (session : Session β κ η) (generation : Nat) (target : Int)
    (timing : Timing) :
    session.Continues (commit session generation target timing).1 := by
  unfold commit
  split
  · exact .refl session
  · exact continues_of_same rfl rfl rfl rfl

private theorem continues_awaitClear (session : Session β κ η) (generation : Nat)
    (timing : Timing) :
    session.Continues (awaitClear session generation timing).1 := by
  unfold awaitClear
  split
  · exact .refl session
  · split
    · exact .refl session
    · exact continues_setPhase session _ _ _

private theorem continues_clear (session : Session β κ η) (generation : Nat) :
    session.Continues (clear session generation).1 := by
  unfold clear
  split
  · exact .refl session
  · exact continues_of_same rfl rfl rfl rfl

/-! ## Moves -/

theorem Decides.tends {move : Move β κ η} (decides : session.Decides move) :
    session.Tends move.1 := by
  cases decides with
  | refuses | nothingToPlay | starts | follows | crosses | picks => exact tends_of_same rfl rfl
  | types types => exact types.continues.toTends
  | ends _ _ _ _ => exact (continues_stopTyping session).toTends.trans (tends_of_same rfl rfl)
  | restarts _ _ =>
      exact ((continues_stopTyping session).trans (continues_cancelTransition _)).toTends.trans
        (tends_of_same rfl rfl)

theorem continues_stopPlayer (session : Session β κ η) :
    (withStage session fun stage => { stage with stopped := true }).Continues
      (stopPlayer session).2 := by
  unfold stopPlayer
  split
  · next stopped =>
      apply continues_of_same
      · simp [outline, withStage, stopped]
      · rfl
      · rfl
      · rfl
  · exact (continues_stopTyping _).trans (continues_cancelTransition _)

theorem tends_stopPlayer (session : Session β κ η) :
    (stopPlayer session).2.world.sound = session.world.sound ∧
      (stopPlayer session).2.world.closed = session.world.closed ∧
      (stopPlayer session).2.world.stopped = true ∧
      (stopPlayer session).2.world.bus = session.world.bus ∧
      session.timeline.Tends (stopPlayer session).2.timeline :=
  have continues := continues_stopPlayer session
  ⟨continues.sound, continues.closed, continues.stopped, continues.bus, continues.timeline⟩

theorem position_stopPlayer (session : Session β κ η) :
    (stopPlayer session).2.world.position = session.world.position ∨
      (stopPlayer session).2.world.position =
        { session.world.position with transitioning := false, style := none } := by
  unfold stopPlayer
  split
  · exact .inl rfl
  · exact .inr rfl

/-! ## Tasks -/

variable [Device β] [DecidableEq κ]

/-- A move of the player that tells nothing goes on with the playback. -/
theorem continues_step (callbacks : Callbacks κ η) {task : Task κ η}
    (moves : task.isMove = true) (session : Session β κ η) :
    session.Continues ((clockwork callbacks).step (.work task) session).1 := by
  cases task with
  | reply | replyCount | enterScene => exact continues_of_same rfl rfl rfl rfl
  | enterDialogue => exact continues_enterDialogue session
  | typeLine =>
      show session.Continues ((typeLine? session).getD (session, [])).1
      cases types : typeLine? session with
      | none => exact .refl session
      | some move => exact (types_of_typeLine? types).continues
  | beginTransition target => exact continues_beginTransition session target
  | awaitCommit generation target timing =>
      exact continues_awaitCommit session generation target timing
  | commit generation target timing => exact continues_commit session generation target timing
  | awaitClear generation timing => exact continues_awaitClear session generation timing
  | clear generation => exact continues_clear session generation
  | strike generation => exact continues_strike session generation
  | request | emit | deliver | script | resume | forgetListeners => contradiction

private theorem tends_of_move? {made : Request κ} {move : Move β κ η}
    (asked : made.move? session = some move) : session.Tends (begin session made).1 := by
  obtain ⟨decision, begun, decides⟩ := decides_begin asked
  rw [begun]
  exact decides.tends

theorem tends_begin {made : Request κ} (plays : made.Plays) (session : Session β κ η) :
    session.Tends (begin session made).1 := by
  cases made with
  | start | advance | choose | restart | startTyping | skipTyping =>
      exact tends_of_move? rfl
  | update time =>
      simp only [begin]
      split
      · exact tends_of_same rfl rfl
      · exact tends_of_same rfl rfl
  | flush limit => exact tends_of_same rfl rfl
  | toggleMute | close | stop | cancelTimers | later | setMuted | frame | statistics | isClosed
  | gesture => exact absurd plays id

end Session

end VisualNovel.Playback
