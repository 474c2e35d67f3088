import VisualNovel.Proofs.Playback.Conducting
import VisualNovel.Proofs.Playback.Unfolding

/-!
# How long the line at the position is

A position says how many characters its line has and how many of them are revealed.
It moves on before the line there is entered, and whoever hears of that still finds
the length of the line before. But as soon as nothing is left to be done, the
position takes no line for longer than it is, whatever callbacks have done.
-/

set_option autoImplicit false

namespace VisualNovel.Playback

open VisualNovel.Agenda VisualNovel.Clock VisualNovel.Event VisualNovel.Novel VisualNovel.Sound

variable {β κ η : Type}

def Task.entersLine : Task κ η → Bool
  | .enterScene | .enterDialogue => true
  | _ => false

namespace Session

/-- No less than nothing is revealed, of a line of no less than no characters. -/
structure Counted (session : Session β κ η) : Prop where
  revealed : 0 ≤ session.world.position.revealed
  length : 0 ≤ session.world.position.textLength

/-- The position takes its line for no longer than it is. -/
def Measured (session : Session β κ η) : Prop :=
  ∀ dialogue, session.world.dialogue? = some dialogue →
    session.world.position.textLength ≤ dialogue.text.length

def Enter (left : List (Job (Task κ η))) : Prop :=
  ∃ job ∈ left, job.any Task.entersLine = true

/-- What is made of a session takes its line for no longer than it is, or is still to enter it. -/
structure Gauges (session : Session β κ η) (decision : Session β κ η × List (Job (Task κ η))) :
    Prop where
  counted : session.Counted → decision.1.Counted
  measured : session.Measured → decision.1.Measured ∨ Enter decision.2

structure KeepsLine (session next : Session β κ η) : Prop where
  novel : next.world.novel = session.world.novel
  place : next.world.position.place = session.world.position.place
  length : next.world.position.textLength = session.world.position.textLength
  counted : session.Counted → next.Counted

variable {session middle next : Session β κ η} {move : Move β κ η}
  {decision : Session β κ η × List (Job (Task κ η))}

theorem KeepsLine.refl (session : Session β κ η) : session.KeepsLine session :=
  ⟨rfl, rfl, rfl, id⟩

theorem KeepsLine.trans (first : session.KeepsLine middle) (second : middle.KeepsLine next) :
    session.KeepsLine next where
  novel := second.novel.trans first.novel
  place := second.place.trans first.place
  length := second.length.trans first.length
  counted := second.counted ∘ first.counted

theorem keepsLine_of_same (novel : next.world.novel = session.world.novel)
    (position : next.world.position = session.world.position) : session.KeepsLine next where
  novel := novel
  place := congrArg Position.place position
  length := congrArg Position.textLength position
  counted counted :=
    ⟨congrArg Position.revealed position ▸ counted.revealed,
      congrArg Position.textLength position ▸ counted.length⟩

theorem KeepsLine.measured (keeps : session.KeepsLine next) (measured : session.Measured) :
    next.Measured := by
  obtain ⟨scene, line⟩ := Prod.mk.inj keeps.place
  intro dialogue found
  unfold Stage.dialogue? Position.dialogue? at found
  rw [keeps.novel, scene, line] at found
  rw [keeps.length]
  exact measured dialogue found

theorem KeepsLine.gauges (keeps : session.KeepsLine decision.1) : session.Gauges decision :=
  ⟨keeps.counted, fun measured => .inl (keeps.measured measured)⟩

theorem gauges_of_same (novel : decision.1.world.novel = session.world.novel)
    (position : decision.1.world.position = session.world.position) : session.Gauges decision :=
  (keepsLine_of_same novel position).gauges

theorem enter_jobs {task : Task κ η} (listed : task ∈ move.2) (entry : task.entersLine = true) :
    Enter (jobs move).2 :=
  ⟨.work task, List.mem_map.mpr ⟨task, listed, rfl⟩, entry⟩

theorem Enter.mono {left more : List (Job (Task κ η))} (kept : left ⊆ more) :
    Enter left → Enter more
  | ⟨job, listed, enters⟩ => ⟨job, kept listed, enters⟩

/-! ## Lines -/

/-- Taking up what the typewriter tells keeps the line. -/
theorem keepsLine_heed (session : Session β κ η) (signals : List Signal) :
    session.KeepsLine (heed session signals).1 := by
  induction signals generalizing session with
  | nil => exact .refl session
  | cons signal signals hypothesis =>
      cases signal with
      | progress revealed =>
          have told : session.KeepsLine
              (withPosition session fun position => { position with revealed }) :=
            ⟨rfl, rfl, rfl, fun counted => ⟨Int.natCast_nonneg revealed, counted.length⟩⟩
          exact told.trans (hypothesis _)
      | complete skipped =>
          have told : session.KeepsLine (withPosition session fun position =>
              { position with revealed := position.textLength }) :=
            ⟨rfl, rfl, rfl, fun counted => ⟨counted.length, counted.length⟩⟩
          exact told.trans (hypothesis _)

theorem keepsLine_typed (session : Session β κ η) (typed : Typed (Alarm κ))
    (signals : List Signal) :
    session.KeepsLine (heed (withTyped session typed) signals).1 :=
  (keepsLine_of_same rfl rfl : session.KeepsLine (withTyped session typed)).trans
    (keepsLine_heed _ signals)

/-- A line that is at the position is just as long as itself. -/
theorem measured_of_length {dialogue : Dialogue} (found : session.world.dialogue? = some dialogue)
    (length : session.world.position.textLength = dialogue.text.length) : session.Measured := by
  intro other same
  obtain rfl := Option.some.inj (found.symm.trans same)
  exact length.le

private theorem gauges_typeLine? (types : session.typeLine? = some move)
    (left : List (Job (Task κ η))) : session.Gauges (move.1, left) := by
  unfold typeLine? at types
  dsimp only at types
  split at types
  · contradiction
  · next dialogue found =>
      split at types
      · contradiction
      · obtain rfl := Option.some.inj types
        have keeps := keepsLine_typed
          (withPosition session fun position =>
            { position with textLength := dialogue.text.length, revealed := 0 })
          (session.world.typewriter.start .strike dialogue.text session.timeline).2
          (session.world.typewriter.start .strike dialogue.text session.timeline).1
        exact ⟨fun _ => keeps.counted ⟨le_rfl, Int.natCast_nonneg _⟩,
          fun _ => .inl (keeps.measured (measured_of_length found rfl))⟩

/-- Entering a line sets all that the position says of it. -/
theorem measured_enterDialogue (session : Session β κ η) : (enterDialogue session).1.Counted ∧
    (enterDialogue session).1.Measured := by
  unfold enterDialogue
  cases found : session.world.dialogue? with
  | none => exact ⟨⟨le_rfl, le_rfl⟩, fun dialogue same => nomatch found.symm.trans same⟩
  | some dialogue => exact ⟨⟨le_rfl, Int.natCast_nonneg _⟩, measured_of_length found rfl⟩

/-! ## Moves -/

theorem keepsLine_stopPlayer (session : Session β κ η) :
    session.KeepsLine (stopPlayer session).2 := by
  unfold stopPlayer
  split
  · exact .refl session
  · exact ⟨rfl, rfl, rfl, fun counted => ⟨counted.revealed, counted.length⟩⟩

theorem gauges_refuse (session : Session β κ η) : session.Gauges (jobs (refuse session)) :=
  gauges_of_same rfl rfl

theorem gauges_whenOpen (gauges : session.Gauges (jobs move)) :
    session.Gauges (jobs (whenOpen session move)) := by
  unfold whenOpen
  split
  · exact gauges_refuse session
  · exact gauges

private theorem gauges_start (session : Session β κ η) : session.Gauges (jobs (start session)) := by
  unfold start
  dsimp only
  split
  · exact gauges_refuse session
  split
  · exact gauges_of_same rfl rfl
  · exact gauges_of_same rfl rfl

private theorem gauges_startTyping (session : Session β κ η) :
    session.Gauges (jobs (startTyping session)) := by
  unfold startTyping
  cases types : session.typeLine? with
  | none => exact gauges_refuse session
  | some move => exact gauges_typeLine? types _

private theorem gauges_skipTyping (session : Session β κ η) :
    session.Gauges (jobs (skipTyping session)) := by
  unfold skipTyping
  dsimp only
  split
  · cases session.world.typewriter.skip? session.timeline with
    | none => exact gauges_refuse session
    | some skipped => exact (keepsLine_typed session skipped.2 [skipped.1]).gauges
  · exact gauges_refuse session

/-- Where the position moves on to the next line, that is still to be entered. -/
theorem gauges_advance (session : Session β κ η) : session.Gauges (jobs (advance session)) := by
  unfold advance
  dsimp only
  split
  · exact gauges_refuse session
  split
  · exact gauges_skipTyping session
  split
  · exact gauges_refuse session
  split
  · exact ⟨fun counted => ⟨counted.revealed, counted.length⟩,
      fun _ => .inr (enter_jobs List.mem_cons_self rfl)⟩
  split
  · exact gauges_of_same rfl rfl
  · exact KeepsLine.gauges ⟨rfl, rfl, rfl, fun counted => ⟨counted.revealed, counted.length⟩⟩

private theorem gauges_choose (session : Session β κ η) (choiceId : String) :
    session.Gauges (jobs (choose session choiceId)) := by
  unfold choose
  dsimp only
  split
  · exact gauges_refuse session
  split
  · exact gauges_refuse session
  split
  · exact gauges_refuse session
  · exact gauges_of_same rfl rfl

private theorem gauges_restart (session : Session β κ η) : session.Gauges (jobs (restart session))
    := by
  unfold restart
  dsimp only
  split
  · exact gauges_refuse session
  · exact ⟨fun _ => ⟨le_rfl, le_rfl⟩,
      fun _ => .inr (enter_jobs (List.mem_cons_of_mem _ List.mem_cons_self) rfl)⟩

/-! ## Requests and tasks -/

variable [Device β] [DecidableEq κ]

private theorem keepsLine_close (session : Session β κ η) :
    session.KeepsLine (close session).1 := by
  cases closed : session.world.closed with
  | true =>
      have same : (close session).1 = session := by simp [close, closed]
      rw [same]
      exact .refl session
  | false =>
      obtain ⟨_, _, _, world⟩ := world_close closed
      have marked : session.KeepsLine
          (withStage session fun stage => { stage with closed := true }) :=
        keepsLine_of_same rfl rfl
      refine (marked.trans (keepsLine_stopPlayer _)).trans (keepsLine_of_same ?_ ?_)
      · rw [world]
      · rw [world]

private theorem gauges_begin (session : Session β κ η) (made : Request κ) :
    session.Gauges (begin session made) := by
  cases made with
  | start => exact gauges_whenOpen (gauges_start session)
  | advance => exact gauges_whenOpen (gauges_advance session)
  | choose choiceId => exact gauges_whenOpen (gauges_choose session choiceId)
  | restart => exact gauges_whenOpen (gauges_restart session)
  | startTyping => exact gauges_startTyping session
  | skipTyping => exact gauges_skipTyping session
  | close => exact (keepsLine_close session).gauges
  | stop =>
      refine KeepsLine.gauges ((keepsLine_stopPlayer session).trans ?_)
      exact keepsLine_of_same rfl rfl
  | toggleMute | update | gesture =>
      simp only [begin]
      split
      · exact gauges_of_same rfl rfl
      · exact gauges_of_same rfl rfl
  | flush | cancelTimers | later | setMuted | frame | statistics | isClosed =>
      exact gauges_of_same rfl rfl

/-- After a move of the player the line is taken for no longer than it is, or is still to be
entered. -/
private theorem gauges_move (callbacks : Callbacks κ η) {task : Task κ η}
    (moves : task.isMove = true)
    (session : Session β κ η) :
    session.Gauges ((clockwork callbacks).step (.work task) session) := by
  cases task with
  | reply | replyCount => exact gauges_of_same rfl rfl
  | enterScene =>
      exact ⟨fun counted => ⟨counted.revealed, counted.length⟩,
        fun _ => .inr (enter_jobs (List.mem_cons_of_mem _ List.mem_cons_self) rfl)⟩
  | enterDialogue =>
      obtain ⟨counted, measured⟩ := measured_enterDialogue session
      exact ⟨fun _ => counted, fun _ => .inl measured⟩
  | typeLine =>
      show session.Gauges (jobs ((typeLine? session).getD (session, [])))
      cases types : typeLine? session with
      | none => exact gauges_of_same rfl rfl
      | some move => exact gauges_typeLine? types _
  | beginTransition target =>
      exact KeepsLine.gauges ⟨rfl, rfl, rfl, fun counted => ⟨counted.length, counted.length⟩⟩
  | awaitCommit generation target timing =>
      show session.Gauges (jobs (awaitCommit session generation target timing))
      unfold awaitCommit
      split
      · exact gauges_of_same rfl rfl
      · exact gauges_of_same rfl rfl
  | commit generation target timing =>
      show session.Gauges (jobs (commit session generation target timing))
      unfold commit
      split
      · exact gauges_of_same rfl rfl
      · exact ⟨fun counted => ⟨counted.revealed, counted.length⟩,
          fun _ => .inr (enter_jobs (List.mem_cons_of_mem _ List.mem_cons_self) rfl)⟩
  | awaitClear generation timing =>
      show session.Gauges (jobs (awaitClear session generation timing))
      unfold awaitClear
      split
      · exact gauges_of_same rfl rfl
      split
      · exact gauges_of_same rfl rfl
      · exact gauges_of_same rfl rfl
  | clear generation =>
      show session.Gauges (jobs (clear session generation))
      unfold clear
      split
      · exact gauges_of_same rfl rfl
      · exact KeepsLine.gauges ⟨rfl, rfl, rfl, fun counted => ⟨counted.revealed, counted.length⟩⟩
  | strike generation =>
      exact (keepsLine_typed session (session.world.typewriter.strike .strike generation
        session.timeline).2 _).gauges
  | request | emit | deliver | script | resume | forgetListeners => contradiction

private theorem gauges_step (callbacks : Callbacks κ η) (job : Job (Task κ η))
    (session : Session β κ η) :
    session.Gauges ((clockwork callbacks).step job session) := by
  cases job with
  | update | drain | drained | flush | flushed =>
      refine gauges_of_same ?_ ?_
      · rw [Clockwork.world_step (by simp)]
      · rw [Clockwork.world_step (by simp)]
  | work task =>
      cases task using Task.byKind with
      | move task moves => exact gauges_move callbacks moves session
      | request made => exact gauges_begin session made
      | hear event => cases event <;> exact gauges_of_same rfl rfl
      | script caller rest =>
          obtain ⟨_, _, same⟩ := world_proceed session caller rest
          show session.Gauges (jobs (proceed session caller rest))
          refine gauges_of_same ?_ ?_
          · rw [jobs, same]
          · rw [jobs, same]
      | emit | cue | resume | forgetListeners => exact gauges_of_same rfl rfl

/-- A task that leads to the line being entered enters it, or leaves that to be done. -/
theorem measured_of_entry (callbacks : Callbacks κ η) {job : Job (Task κ η)}
    (entry : job.any Task.entersLine = true) (session : Session β κ η) :
    Measured ((clockwork callbacks).step job session).1 ∨
      Enter ((clockwork callbacks).step job session).2 := by
  cases job with
  | update | drain | drained | flush | flushed => contradiction
  | work task =>
      cases task with
      | enterScene => exact .inr (enter_jobs (List.mem_cons_of_mem _ List.mem_cons_self) rfl)
      | enterDialogue => exact .inl (measured_enterDialogue session).2
      | request | reply | replyCount | emit | deliver | script | resume | typeLine
      | beginTransition | awaitCommit | commit | awaitClear | clear | strike
      | forgetListeners => contradiction

/-- At every moment the position takes its line for no longer than it is, or the line is still
to be entered. -/
theorem Unfolds.gauged {callbacks : Callbacks κ η} {admits : Admission β κ η}
    {left tasks : List (Job (Task κ η))} {first : Session β κ η}
    (unfolds : Unfolds callbacks admits left first tasks session) (counted : first.Counted)
    (measured : first.Measured) : session.Counted ∧ (session.Measured ∨ Enter tasks) := by
  induction unfolds with
  | refl => exact ⟨counted, .inl measured⟩
  | @works job rest between _ _ hypothesis =>
      obtain ⟨countedThen, gauged⟩ := hypothesis
      have gauges := gauges_step callbacks job between
      refine ⟨gauges.counted countedThen, ?_⟩
      rcases gauged with settled | ⟨entry, listed, enters⟩
      · exact (gauges.measured settled).imp_right (Enter.mono (List.subset_append_left _ _))
      rcases List.mem_cons.mp listed with rfl | waiting
      · exact (measured_of_entry callbacks enters between).imp_right
          (Enter.mono (List.subset_append_left _ _))
      · exact .inr ⟨entry, List.mem_append_right _ waiting, enters⟩
  | asks made _ hypothesis =>
      refine ⟨hypothesis.1, .inl (hypothesis.2.resolve_right ?_)⟩
      simp [Enter]
  | @listens between name cue _ hypothesis =>
      obtain ⟨countedThen, gauged⟩ := hypothesis
      have keeps : between.KeepsLine (between.listen name cue) := keepsLine_of_same rfl rfl
      exact ⟨keeps.counted countedThen, gauged.imp_left keeps.measured⟩

end Session

end VisualNovel.Playback
