import VisualNovel.Proofs.Playback.Typing.Ticking

/-!
# What is recorded of a line

The host of a typewriter calls it, and moves its clock. Whatever is told between two
starts is told of the line that the first of them began: its characters in their order
and, once at most, that it is complete. A line that was cancelled, or followed by
another, is told of no more.
-/

set_option autoImplicit false

namespace VisualNovel.Playback.Typing

open VisualNovel.Agenda VisualNovel.Clock

inductive Call where
  | start (text : String)
  | skip
  | cancel
  | update (time : Int)
  | flush (limit : Int)
  deriving DecidableEq, Repr

structure Turn where
  before : Typing
  call : Call
  /-- Whether a line was skipped. -/
  skipped : Bool
  told : List Notice
  after : Typing

namespace Turn

def starts (turn : Turn) : Bool :=
  match turn.call with
  | .start _ => true
  | _ => false

def generation (turn : Turn) : Nat :=
  turn.after.world.typewriter.generation

inductive Made : Turn → Prop where
  | start (typing : Typing) (text : String) :
      Made ⟨typing, .start text, false,
        typing.notices (typing.start text).world.typewriter.generation
          (typing.world.typewriter.start id text typing.timeline).1, typing.start text⟩
  | skip (typing : Typing) :
      Made ⟨typing, .skip, typing.skip.1,
        typing.notices typing.world.typewriter.generation
          ((typing.world.typewriter.skip? typing.timeline).toList.map Prod.fst), typing.skip.2⟩
  | cancel (typing : Typing) : Made ⟨typing, .cancel, false, [], typing.cancel⟩
  | update {budget : Nat} {time : Int} {typing after : Typing} :
      typing.update? budget time = some after →
      Made ⟨typing, .update time, false,
        watch (onTasks telling) clockwork.step budget [.update time] typing, after⟩
  | flush {budget : Nat} {limit : Int} {typing after : Typing} :
      typing.flush? budget limit = some after →
      Made ⟨typing, .flush limit, false,
        watch (onTasks telling) clockwork.step budget [.flush limit 0] typing, after⟩

end Turn

inductive Follows : Typing → List Turn → Typing → Prop where
  | nil {typing : Typing} : Follows typing [] typing
  | cons {turn : Turn} {turns : List Turn} {last : Typing} :
      turn.Made → Follows turn.after turns last → Follows turn.before (turn :: turns) last

/-- All that may have been told of a line. -/
inductive Account (line : Line) : List Notice → Prop where
  | partly {count : Nat} : count ≤ line.text.length → Account line (line.record count)
  | wholly : Account line (line.record line.text.length ++ [line.ending])
  | atOnce : line.interval ≤ 0 → Account line [⟨line.generation, line.began, .complete false⟩]
  | skipped {count : Nat} (clock : Int) : count < line.text.length →
      Account line (line.record count ++ [⟨line.generation, clock, .complete true⟩])

/-- Where a line stands, with all that was told of it. Once it has ended, the whole of it shows or
the typewriter has given it up. -/
inductive Course (line : Line) : List Notice → Typing → Prop where
  | busy {count : Nat} {typing : Typing} :
      Busy line count typing → Course line (line.record count) typing
  | ended {record : List Notice} {typing : Typing} : Account line record → Idle typing →
      typing.world.typewriter.interval = line.interval →
      typing.world.typewriter = line.typed ∨
        line.generation < typing.world.typewriter.generation →
      Course line record typing

structure Tells (line : Line) (turn : Turn) : Prop where
  own : ∀ notice ∈ turn.told, notice.generation = line.generation
  current : turn.told ≠ [] → turn.before.world.typewriter.generation = line.generation
  completes : ∀ notice ∈ turn.told, notice.signal = .complete false →
    turn.after.world.typewriter = line.typed
  skips : ∀ notice ∈ turn.told, notice.signal = .complete true →
    turn.call = .skip ∧ turn.skipped = true ∧ turn.after.world.typewriter = line.typed
  onward : turn.before.world.typewriter.generation ≤ turn.generation

variable {typing first middle last : Typing} {line : Line} {record : List Notice} {turn : Turn}
  {turns earlier later : List Turn} {text : String}

theorem Stands.course (stands : Stands line record typing) : Course line record typing := by
  cases stands with
  | busy busy => exact .busy busy
  | finished finished =>
      exact .ended .wholly finished.idle (by rw [finished.typed]; rfl) (.inl finished.typed)

theorem Course.account (course : Course line record typing) : Account line record := by
  cases course with
  | busy busy => exact .partly (Nat.le_of_lt busy.unfinished)
  | ended account _ _ _ => exact account

theorem Course.interval (course : Course line record typing) :
    typing.world.typewriter.interval = line.interval := by
  cases course with
  | busy busy =>
      obtain ⟨number, typewriter, _⟩ := busy.waits
      rw [typewriter]
      rfl
  | ended _ _ interval _ => exact interval

theorem Course.generation (course : Course line record typing) :
    line.generation ≤ typing.world.typewriter.generation := by
  cases course with
  | busy busy =>
      obtain ⟨number, typewriter, _⟩ := busy.waits
      rw [typewriter]
      exact Nat.le_refl _
  | ended _ _ _ stands =>
      rcases stands with typed | past
      · rw [typed]
        exact Nat.le_refl _
      · exact Nat.le_of_lt past

theorem Course.within (course : Course line record typing) :
    typing.world.typewriter.reveal.revealed ≤ typing.world.typewriter.reveal.text.length := by
  cases course with
  | busy busy =>
      obtain ⟨number, typewriter, _⟩ := busy.waits
      rw [typewriter]
      exact Nat.le_of_lt busy.unfinished
  | ended _ idle _ _ => exact idle.within

theorem course_new (now interval : Int) :
    Course ⟨"", interval, 0, now⟩ [] (Typing.new now interval) :=
  .ended (.partly (Nat.zero_le _)) (idle_new now interval) rfl (.inl rfl)

/-! ## Calls to the typewriter -/

/-- Whatever a typewriter was about, cancelling its timer leaves none. -/
theorem Course.cleared (course : Course line record typing) :
    (typing.timeline.cancel? typing.world.typewriter.timer).pending = [] ∧
      typing.timeline.closed = false := by
  cases course with
  | busy busy =>
      obtain ⟨number, typewriter, pending⟩ := busy.waits
      rw [typewriter]
      simp [Timeline.cancel?, Line.typing, Timeline.cancel, pending, Line.timer, busy.isOpen]
  | ended _ idle _ _ =>
      rw [idle.timer]
      exact ⟨idle.silent, idle.isOpen⟩

theorem Course.finished (course : Course line record typing) (text : String)
    (atOnce : text.length = 0 ∨ typing.world.typewriter.interval ≤ 0) :
    Finished (typing.world.typewriter.line text typing.timeline) (typing.start text) := by
  obtain ⟨silent, isOpen⟩ := course.cleared
  have started : typing.start text = typing.put [.complete false]
      ⟨(typing.world.typewriter.line text typing.timeline).typed,
        typing.timeline.cancel? typing.world.typewriter.timer⟩ := by
    rw [Typing.start, Typewriter.start_line_at_once _ _ atOnce]
  rw [started]
  refine ⟨by simpa [put] using isOpen, silent, rfl, ?_⟩
  have now : (typing.timeline.cancel? typing.world.typewriter.timer).now = typing.timeline.now :=
    Timeline.cancel?_now _
  have taken : (text.length : Int) * typing.world.typewriter.interval ≤ 0 := by
    rcases atOnce with empty | instant
    · simp [empty]
    · exact Int.mul_nonpos_of_nonneg_of_nonpos (Int.natCast_nonneg _) instant
  simp only [Line.due, Typewriter.line, put, now]
  omega

/-- What is told when a line begins. -/
theorem told_start (typing : Typing) (text : String)
    (atOnce : text.length = 0 ∨ typing.world.typewriter.interval ≤ 0) :
    typing.notices (typing.start text).world.typewriter.generation
        (typing.world.typewriter.start id text typing.timeline).1 =
      [⟨typing.world.typewriter.generation + 1, typing.timeline.now, .complete false⟩] := by
  rw [Typing.start, Typewriter.start_line_at_once _ _ atOnce]
  rfl

/-- A line that takes time is left to its timers. -/
theorem Course.stands (course : Course line record typing) (text : String)
    (takesTime : 0 < typing.world.typewriter.interval) :
    Stands (typing.world.typewriter.line text typing.timeline)
      (typing.notices (typing.start text).world.typewriter.generation
        (typing.world.typewriter.start id text typing.timeline).1) (typing.start text) := by
  by_cases empty : text.length = 0
  · have nothing : (typing.world.typewriter.line text typing.timeline).text.length = 0 := empty
    have finished := Stands.finished (course.finished text (.inl empty))
    rw [nothing, Line.ending, nothing, Line.due_zero] at finished
    rw [told_start typing text (.inl empty)]
    exact finished
  · obtain ⟨silent, isOpen⟩ := course.cleared
    have now : (typing.timeline.cancel? typing.world.typewriter.timer).now = typing.timeline.now :=
      Timeline.cancel?_now _
    have later := Line.due_succ (typing.world.typewriter.line text typing.timeline) 0
    have began := Line.due_zero (typing.world.typewriter.line text typing.timeline)
    simp only [Typing.start, Typewriter.start_line isOpen empty takesTime, silent]
    refine .busy ⟨by simpa [put] using isOpen, takesTime, Nat.pos_of_ne_zero empty, ?_, ?_,
      typing.timeline.issued, rfl, rfl⟩
    · rw [began]
      exact Int.le_of_eq now.symm
    · rw [later, began]
      show (typing.timeline.cancel? _).now < typing.timeline.now + typing.world.typewriter.interval
      omega

theorem Course.starts (course : Course line record typing) (text : String) :
    Course (typing.world.typewriter.line text typing.timeline)
      (typing.notices (typing.start text).world.typewriter.generation
        (typing.world.typewriter.start id text typing.timeline).1) (typing.start text) := by
  by_cases takesTime : 0 < typing.world.typewriter.interval
  · exact (course.stands text takesTime).course
  · have instant := Int.not_lt.mp takesTime
    have finished := course.finished text (.inr instant)
    rw [told_start typing text (.inr instant)]
    exact .ended (.atOnce instant) finished.idle (by rw [finished.typed]; rfl) (.inl finished.typed)

/-- A line that is left to its timers tells its own characters, and at last that it is complete. -/
theorem Stands.of_mem (stands : Stands line record typing) {notice : Notice}
    (member : notice ∈ record) :
    notice.generation = line.generation ∧ notice.signal ≠ .complete true ∧
      (notice.signal = .complete false → typing.world.typewriter = line.typed) := by
  have ofRecord {count : Nat} (listed : notice ∈ line.record count) :
      ∃ shown, notice = line.progress shown := by
    obtain ⟨shown, _, rfl⟩ := List.mem_map.mp listed
    exact ⟨shown, rfl⟩
  cases stands with
  | busy _ =>
      obtain ⟨shown, rfl⟩ := ofRecord member
      exact ⟨rfl, by simp [Line.progress], by simp [Line.progress]⟩
  | finished finished =>
      rcases List.mem_append.mp member with listed | last
      · obtain ⟨shown, rfl⟩ := ofRecord listed
        exact ⟨rfl, by simp [Line.progress], by simp [Line.progress]⟩
      · obtain rfl := List.mem_singleton.mp last
        exact ⟨rfl, by simp [Line.ending], fun _ => finished.typed⟩

theorem tells_nothing {call : Call} {skipped : Bool}
    (onward : first.world.typewriter.generation ≤ last.world.typewriter.generation) :
    Tells line ⟨first, call, skipped, [], last⟩ :=
  ⟨by simp, fun some => absurd rfl some, by simp, by simp, onward⟩

theorem Busy.generation {count : Nat} (busy : Busy line count typing) :
    typing.world.typewriter.generation = line.generation := by
  obtain ⟨number, typewriter, _⟩ := busy.waits
  rw [typewriter]
  rfl

theorem Busy.tells {count : Nat} {told : List Notice} {call : Call}
    (busy : Busy line count first) (stands : Stands line (line.record count ++ told) last) :
    Tells line ⟨first, call, false, told, last⟩ where
  own _ member := (stands.of_mem (List.mem_append_right _ member)).1
  current _ := busy.generation
  completes _ member := (stands.of_mem (List.mem_append_right _ member)).2.2
  skips _ member skips := absurd skips (stands.of_mem (List.mem_append_right _ member)).2.1
  onward := busy.generation ▸ stands.course.generation

/-- When the clock is moved, a line goes on or, if it has ended, remains as it is. -/
theorem Course.moves {call : Call} {jobs : List (Job Nat)} {budget : Nat}
    (course : Course line record first)
    (moved : clockwork.run budget jobs first = some last)
    (goesOn : ∀ {record}, Stands line record first →
      ∃ told after, Completes (onTasks telling) clockwork.step jobs first told after ∧
        Stands line (record ++ told) after)
    (rests : Idle first → ∃ after, Completes (onTasks telling) clockwork.step jobs first [] after ∧
      after.world = first.world ∧ Idle after) :
    Course line (record ++ watch (onTasks telling) clockwork.step budget jobs first) last ∧
      Tells line ⟨first, call, false,
        watch (onTasks telling) clockwork.step budget jobs first, last⟩ := by
  have completes := completes_iff.mpr
    ⟨budget, moved, Eq.refl (watch (onTasks telling) clockwork.step budget jobs first)⟩
  cases course with
  | busy busy =>
      obtain ⟨told, after, ends, stands⟩ := goesOn (.busy busy)
      obtain ⟨rfl, rfl⟩ := ends.unique completes
      exact ⟨stands.course, busy.tells stands⟩
  | ended account idle interval stands =>
      obtain ⟨after, ends, same, idle⟩ := rests idle
      obtain ⟨nothing, rfl⟩ := ends.unique completes
      rw [← nothing, List.append_nil]
      exact ⟨.ended account idle (same ▸ interval) (same ▸ stands),
        tells_nothing (Nat.le_of_eq (congrArg (·.typewriter.generation) same).symm)⟩

theorem Course.skip (course : Course line record typing) :
    Course line
        (record ++ typing.notices typing.world.typewriter.generation
          ((typing.world.typewriter.skip? typing.timeline).toList.map Prod.fst)) typing.skip.2 ∧
      Tells line ⟨typing, .skip, typing.skip.1,
        typing.notices typing.world.typewriter.generation
          ((typing.world.typewriter.skip? typing.timeline).toList.map Prod.fst),
        typing.skip.2⟩ := by
  cases course with
  | @busy count _ busy =>
      obtain ⟨silent, isOpen⟩ := (Course.busy busy).cleared
      obtain ⟨number, typewriter, pending⟩ := busy.waits
      have skipped : typing.world.typewriter.skip? typing.timeline =
          some (.complete true,
            ⟨line.typed, typing.timeline.cancel? typing.world.typewriter.timer⟩) := by
        rw [typewriter, Typewriter.skip?_eq]
        rfl
      have after : typing.skip = (true, typing.put [.complete true]
          ⟨line.typed, typing.timeline.cancel? typing.world.typewriter.timer⟩) := by
        rw [Typing.skip, skipped]
      rw [skipped, after, busy.generation]
      have idle : Idle (typing.put [.complete true]
          ⟨line.typed, typing.timeline.cancel? typing.world.typewriter.timer⟩) :=
        ⟨by simpa [put] using isOpen, silent, rfl, rfl, Nat.le_refl _⟩
      refine ⟨.ended (.skipped _ busy.unfinished) idle rfl (.inl rfl), ?_⟩
      exact ⟨by simp [notices], fun _ => busy.generation, by simp [notices],
        fun _ _ _ => ⟨rfl, rfl, rfl⟩, Nat.le_of_eq busy.generation⟩
  | ended account idle interval stands =>
      have refused : typing.world.typewriter.skip? typing.timeline = none := by
        rw [Typewriter.skip?_eq, if_pos idle.complete]
      have after : typing.skip = (false, typing) := by rw [Typing.skip, refused]
      rw [refused, after]
      refine ⟨?_, tells_nothing (Nat.le_refl _)⟩
      exact (List.append_nil record).symm ▸ .ended account idle interval stands

theorem Course.cancel (course : Course line record typing) :
    Course line record typing.cancel ∧
      line.generation < typing.cancel.world.typewriter.generation := by
  obtain ⟨silent, isOpen⟩ := course.cleared
  have past := Nat.lt_succ_of_le course.generation
  have cancelled : typing.cancel = typing.put []
      ⟨{ typing.world.typewriter with
          timer := none
          generation := typing.world.typewriter.generation + 1
          reveal := { typing.world.typewriter.reveal with complete := true } },
        typing.timeline.cancel? typing.world.typewriter.timer⟩ := by
    rw [Typing.cancel, Typewriter.cancel_eq]
  rw [cancelled]
  exact ⟨.ended course.account ⟨by simpa [put] using isOpen, silent, rfl, rfl, course.within⟩
    course.interval (.inr past), past⟩

/-- A call that does not begin a line leaves the one there is on its course. -/
theorem Course.goesOn (course : Course line record turn.before) (made : turn.Made)
    (within : turn.starts = false) :
    Course line (record ++ turn.told) turn.after ∧ Tells line turn := by
  cases made with
  | start => contradiction
  | skip typing => exact course.skip
  | cancel typing =>
      obtain ⟨cancelled, past⟩ := course.cancel
      refine ⟨(List.append_nil record).symm ▸ cancelled, tells_nothing ?_⟩
      rw [Typing.cancel, Typewriter.cancel_eq]
      exact Nat.le_succ _
  | update moved =>
      refine course.moves moved (fun stands => ?_) fun idle => idle.updates _
      obtain ⟨told, after, updates, stands, _⟩ := stands.updates _
      exact ⟨told, after, updates, stands⟩
  | flush moved =>
      exact course.moves moved (fun stands => stands.flushes _ 0) fun idle => idle.flushes _

end VisualNovel.Playback.Typing
