import VisualNovel.Proofs.Playback.Typing.Recording

/-!
# The discipline of a typewriter

Between the calls of its host a typewriter waits with one timer while it types a line,
and with none otherwise. Of every line it tells the characters one by one and then, once
at most, that it is complete; it tells this when the whole line shows, and that the line
was skipped only if it was. It never tells anything of a line that was cancelled or
followed by another.
-/

set_option autoImplicit false

namespace VisualNovel.Playback.Typing

open VisualNovel.Agenda VisualNovel.Clock

variable {typing first middle last : Typing} {line : Line} {record : List Notice} {turn : Turn}
  {turns earlier later : List Turn} {text : String} {now interval : Int}

def Turn.signals (turn : Turn) : List Signal :=
  turn.told.map Notice.signal

/-- What was recorded of a line from the call that began it to the next that begins one. -/
structure Kept (text : String) (interval : Int) (begun : Turn) (line later : List Turn) :
    Prop where
  /-- The characters come in order, followed by one completion at most. -/
  ordered : ∃ (count : Nat) (ends : Option Bool),
    (begun :: line).flatMap Turn.signals =
        (List.range' 1 count).map .progress ++ ends.toList.map .complete ∧
      count ≤ text.length ∧
      (ends = some false →
        count = text.length ∨ count = 0 ∧ (text.length = 0 ∨ interval ≤ 0))
  /-- The line is complete only with the whole of it revealed. -/
  complete : ∀ turn ∈ begun :: line, .complete false ∈ turn.signals →
    turn.after.world.typewriter.reveal = ⟨text, text.length, true⟩
  /-- It is told to be skipped only by a call that skipped it, and that reveals the whole of it. -/
  skipped : ∀ turn ∈ begun :: line, .complete true ∈ turn.signals →
    turn.call = .skip ∧ turn.skipped = true ∧
      turn.after.world.typewriter.reveal = ⟨text, text.length, true⟩
  /-- Nothing is told after the line was cancelled. -/
  cancelled : ∀ before cancel after, line = before ++ cancel :: after → cancel.call = .cancel →
    ∀ turn ∈ after, turn.told = []
  /-- Whatever is told is told of this line. -/
  own : ∀ turn ∈ begun :: line, ∀ notice ∈ turn.told, notice.generation = begun.generation
  /-- Nothing is told of it any more once another line was begun. -/
  superseded : ∀ turn ∈ later, ∀ notice ∈ turn.told, notice.generation ≠ begun.generation

/-- What holds after calls to a typewriter, which may be followed by any other call. -/
structure Disciplined (interval : Int) (turns : List Turn) (typing : Typing) : Prop where
  goesOn : ∀ call, ∃ turn : Turn, turn.before = typing ∧ turn.call = call ∧ turn.Made
  recorded : typing.world.signals.reverse = turns.flatMap Turn.signals
  waiting : typing.timeline.pending.length = if typing.world.typewriter.isTyping then 1 else 0
  within : typing.world.typewriter.reveal.revealed ≤ typing.world.typewriter.reveal.text.length
  lines : ∀ earlier begun line later text, turns = earlier ++ begun :: (line ++ later) →
    begun.call = .start text → (∀ turn ∈ line, turn.starts = false) →
    (∀ turn ∈ later.head?, turn.starts = true) → Kept text interval begun line later

/-! ## Calls that follow one another -/

theorem follows_append :
    Follows first (earlier ++ later) last ↔
      ∃ middle, Follows first earlier middle ∧ Follows middle later last := by
  constructor
  · intro follows
    induction earlier generalizing first with
    | nil => exact ⟨first, .nil, follows⟩
    | cons turn turns hypothesis =>
        cases follows with
        | cons made follows =>
            obtain ⟨middle, before, after⟩ := hypothesis follows
            exact ⟨middle, .cons made before, after⟩
  · rintro ⟨middle, before, after⟩
    induction before with
    | nil => exact after
    | cons made _ hypothesis => exact .cons made (hypothesis after)

private theorem signals_completes {jobs : List (Job Nat)} {told : List Notice}
    (completes : Completes (onTasks telling) clockwork.step jobs first told last) :
    last.world.signals = (told.map Notice.signal).reverse ++ first.world.signals := by
  induction completes with
  | nil => rfl
  | @cons job _ typing _ _ _ hypothesis =>
      rw [hypothesis, List.map_append, List.reverse_append, List.append_assoc]
      congr 1
      cases job with
      | work generation => simp [step_work, onTasks, telling, put]
      | update | drain | drained | flush | flushed =>
          rw [Clockwork.world_step (by simp)]
          rfl

theorem Turn.Made.signals (made : turn.Made) :
    turn.after.world.signals = turn.signals.reverse ++ turn.before.world.signals := by
  cases made with
  | start typing text => simp [Turn.signals, Typing.start, put]
  | skip typing =>
      unfold Turn.signals Typing.skip
      cases typing.world.typewriter.skip? typing.timeline <;> simp [put]
  | cancel typing => simp [Turn.signals, Typing.cancel, put]
  | update moved | flush moved =>
      exact signals_completes (completes_iff.mpr ⟨_, moved, rfl⟩)

private theorem signals_follows (follows : Follows first turns last) :
    last.world.signals.reverse =
      first.world.signals.reverse ++ turns.flatMap Turn.signals := by
  induction follows with
  | nil => simp
  | cons made _ hypothesis => simp [hypothesis, made.signals]

/-! ## Lines that follow one another -/

structure Begins (line : Line) (turn : Turn) : Prop where
  course : Course line turn.told turn.after
  own : ∀ notice ∈ turn.told, notice.generation = line.generation
  completes : ∀ notice ∈ turn.told, notice.signal = .complete false →
    turn.after.world.typewriter = line.typed
  skips : ∀ notice ∈ turn.told, notice.signal ≠ .complete true
  generation : turn.generation = line.generation

theorem Course.begins (course : Course line record turn.before) (made : turn.Made)
    (begins : turn.call = .start text) :
    Begins (turn.before.world.typewriter.line text turn.before.timeline) turn := by
  cases made with
  | skip | cancel | update | flush => contradiction
  | start typing begun =>
      obtain rfl := Call.start.inj begins
      have generation : (typing.start begun).world.typewriter.generation =
          typing.world.typewriter.generation + 1 := Typewriter.start_generation ..
      by_cases takesTime : 0 < typing.world.typewriter.interval
      · have stands := course.stands begun takesTime
        exact ⟨stands.course, fun _ member => (stands.of_mem member).1,
          fun _ member => (stands.of_mem member).2.2, fun _ member => (stands.of_mem member).2.1,
          generation⟩
      · have instant := Int.not_lt.mp takesTime
        have typed := (course.finished begun (.inr instant)).typed
        have told := told_start typing begun (.inr instant)
        exact ⟨course.starts begun, by simp [told, Typewriter.line], fun _ _ _ => typed,
          by simp [told], generation⟩

theorem Course.follows (course : Course line record first) (follows : Follows first turns last)
    (within : ∀ turn ∈ turns, turn.starts = false) :
    Course line (record ++ turns.flatMap Turn.told) last ∧ ∀ turn ∈ turns, Tells line turn := by
  induction follows generalizing record with
  | nil => exact ⟨by simpa using course, by simp⟩
  | @cons turn turns last made _ hypothesis =>
      obtain ⟨now, after⟩ := List.forall_mem_cons.mp within
      obtain ⟨course, tells⟩ := course.goesOn made now
      obtain ⟨course, rest⟩ := hypothesis course after
      refine ⟨?_, List.forall_mem_cons.mpr ⟨tells, rest⟩⟩
      rwa [List.append_assoc, ← List.flatMap_cons] at course

/-- What every call leaves behind: a line on its course, and nothing told of an earlier one. -/
theorem Course.next (course : Course line record turn.before) (made : turn.Made) :
    (∃ line record, Course line record turn.after ∧
        line.interval = turn.before.world.typewriter.interval) ∧
      turn.before.world.typewriter.generation ≤ turn.generation ∧
      ∀ notice ∈ turn.told, turn.before.world.typewriter.generation ≤ notice.generation := by
  cases starts : turn.starts with
  | false =>
      obtain ⟨goesOn, tells⟩ := course.goesOn made starts
      refine ⟨⟨_, _, goesOn, course.interval.symm⟩, tells.onward, fun notice member => ?_⟩
      have own := tells.own notice member
      have current := tells.current (List.ne_nil_of_mem member)
      exact Nat.le_of_eq (current.trans own.symm)
  | true =>
      cases call : turn.call with
      | start text =>
          have begins := course.begins made call
          have past : turn.before.world.typewriter.generation ≤
              (turn.before.world.typewriter.line text turn.before.timeline).generation :=
            Nat.le_succ _
          exact ⟨⟨_, _, begins.course, rfl⟩, begins.generation ▸ past,
            fun notice member => begins.own notice member ▸ past⟩
      | skip | cancel | update | flush => simp [Turn.starts, call] at starts

theorem Course.exists_follows (course : Course line record first)
    (follows : Follows first turns last) :
    ∃ line record, Course line record last ∧
      line.interval = first.world.typewriter.interval := by
  induction follows generalizing line record with
  | nil => exact ⟨_, _, course, course.interval.symm⟩
  | cons made _ hypothesis =>
      obtain ⟨⟨_, _, next, interval⟩, _⟩ := course.next made
      obtain ⟨line, record, course, same⟩ := hypothesis next
      exact ⟨line, record, course, same.trans (next.interval.trans interval)⟩

private theorem Course.told_later {generation : Nat} (course : Course line record first)
    (follows : Follows first turns last) (past : generation < first.world.typewriter.generation) :
    ∀ turn ∈ turns, ∀ notice ∈ turn.told, generation < notice.generation := by
  induction follows generalizing line record with
  | nil => simp
  | cons made _ hypothesis =>
      obtain ⟨⟨_, _, next, _⟩, onward, told⟩ := course.next made
      refine List.forall_mem_cons.mpr ⟨fun notice member => ?_, ?_⟩
      · exact Nat.lt_of_lt_of_le past (told notice member)
      · exact hypothesis next (Nat.lt_of_lt_of_le past onward)

/-! ## The discipline -/

/-- What is told of a line counts its characters, and then says how it was completed. -/
theorem Account.signals (account : Account line record) :
    ∃ (count : Nat) (ends : Option Bool),
      record.map Notice.signal =
          (List.range' 1 count).map .progress ++ ends.toList.map .complete ∧
        count ≤ line.text.length ∧
        (ends = some false → count = line.text.length ∨
          count = 0 ∧ (line.text.length = 0 ∨ line.interval ≤ 0)) := by
  have shown (count : Nat) :
      (line.record count).map Notice.signal = (List.range' 1 count).map .progress := by
    simp [Line.record, Line.progress, Function.comp_def]
  cases account with
  | @partly count within => exact ⟨count, none, by simp [shown], within, by simp⟩
  | wholly =>
      exact ⟨line.text.length, some false, by simp [shown, Line.ending], Nat.le_refl _,
        fun _ => .inl rfl⟩
  | atOnce instant => exact ⟨0, some false, rfl, Nat.zero_le _, fun _ => .inr ⟨rfl, .inr instant⟩⟩
  | @skipped count clock unfinished =>
      exact ⟨count, some true, by simp [shown], Nat.le_of_lt unfinished, by simp⟩

/-- Once a line was cancelled, nothing is told of it. -/
theorem Course.silent_after_cancel {cancel : Turn} (course : Course line record first)
    (follows : Follows first (earlier ++ cancel :: later) last) (cancels : cancel.call = .cancel)
    (within : ∀ turn ∈ earlier ++ cancel :: later, turn.starts = false) :
    ∀ turn ∈ later, turn.told = [] := by
  obtain ⟨middle, before, after⟩ := follows_append.mp follows
  obtain ⟨earlierWithin, _, laterWithin⟩ :=
    (List.forall_mem_append.trans (and_congr_right fun _ => List.forall_mem_cons)).mp within
  obtain ⟨course, _⟩ := course.follows before earlierWithin
  cases after with
  | cons made after =>
      cases made with
      | start | skip | update | flush => contradiction
      | cancel typing =>
          obtain ⟨course, past⟩ := course.cancel
          obtain ⟨_, tells⟩ := course.follows after laterWithin
          intro turn member
          refine List.eq_nil_iff_forall_not_mem.mpr fun notice told => ?_
          have own := (tells turn member).own notice told
          have other := course.told_later after past turn member notice told
          omega

/-- Once another line was begun, nothing is told of the one before. -/
theorem Course.told_after_start (course : Course line record first)
    (follows : Follows first turns last) (next : ∀ turn ∈ turns.head?, turn.starts = true) :
    ∀ turn ∈ turns, ∀ notice ∈ turn.told, line.generation < notice.generation := by
  cases follows with
  | nil => simp
  | @cons turn turns _ made follows =>
      have starts := next turn rfl
      cases call : turn.call with
      | skip | cancel | update | flush => simp [Turn.starts, call] at starts
      | start text =>
          have begins := course.begins made call
          have past : line.generation < turn.generation :=
            begins.generation ▸ Nat.lt_succ_of_le course.generation
          refine List.forall_mem_cons.mpr ⟨fun notice told => ?_,
            begins.course.told_later follows past⟩
          rw [begins.own notice told, ← begins.generation]
          exact past

private theorem Turn.mem_signals {signal : Signal} :
    signal ∈ turn.signals ↔ ∃ notice ∈ turn.told, notice.signal = signal :=
  List.mem_map

/-- Between the call that begins a line and the next one that begins any, the record of the line is
kept. -/
theorem Course.kept {begun : Turn} {calls : List Turn} (course : Course line record begun.before)
    (made : begun.Made) (begins : begun.call = .start text)
    (follows : Follows begun.after calls middle) (within : ∀ turn ∈ calls, turn.starts = false)
    (goesOn : Follows middle later last) (next : ∀ turn ∈ later.head?, turn.starts = true) :
    Kept text begun.before.world.typewriter.interval begun calls later := by
  have opening := course.begins made begins
  obtain ⟨ending, tells⟩ := opening.course.follows follows within
  constructor
  · obtain ⟨count, ends, signals, known⟩ := ending.account.signals
    refine ⟨count, ends, ?_, known⟩
    rw [← signals, List.flatMap_cons, List.map_append, List.map_flatMap]
    rfl
  · intro turn member completes
    obtain ⟨notice, told, completes⟩ := Turn.mem_signals.mp completes
    rcases List.mem_cons.mp member with rfl | member
    · rw [opening.completes notice told completes]
      rfl
    · rw [(tells turn member).completes notice told completes]
      rfl
  · intro turn member skips
    obtain ⟨notice, told, skips⟩ := Turn.mem_signals.mp skips
    rcases List.mem_cons.mp member with rfl | member
    · exact absurd skips (opening.skips notice told)
    · obtain ⟨call, skipped, typed⟩ := (tells turn member).skips notice told skips
      exact ⟨call, skipped, by rw [typed]; rfl⟩
  · rintro before cancel after rfl cancels
    exact opening.course.silent_after_cancel follows cancels within
  · intro turn member notice told
    rw [opening.generation]
    rcases List.mem_cons.mp member with rfl | member
    · exact opening.own notice told
    · exact (tells turn member).own notice told
  · intro turn member notice told
    rw [opening.generation]
    exact Nat.ne_of_gt (ending.told_after_start goesOn next turn member notice told)

/-- Whatever a typewriter is about, it can be called. -/
theorem Course.call (course : Course line record typing) (call : Call) :
    ∃ turn : Turn, turn.before = typing ∧ turn.call = call ∧ turn.Made := by
  have moves {jobs : List (Job Nat)} {told : List Notice} {after : Typing}
      (completes : Completes (onTasks telling) clockwork.step jobs typing told after) :
      ∃ budget, clockwork.run budget jobs typing = some after := by
    obtain ⟨budget, moved, _⟩ := completes_iff.mp completes
    exact ⟨budget, moved⟩
  cases call with
  | start text => exact ⟨_, rfl, rfl, .start typing text⟩
  | skip => exact ⟨_, rfl, rfl, .skip typing⟩
  | cancel => exact ⟨_, rfl, rfl, .cancel typing⟩
  | update time =>
      cases course with
      | busy busy =>
          obtain ⟨_, _, updates, _⟩ := (Stands.busy busy).updates time
          obtain ⟨_, moved⟩ := moves updates
          exact ⟨_, rfl, rfl, .update moved⟩
      | ended _ idle _ _ =>
          obtain ⟨_, updates, _⟩ := idle.updates time
          obtain ⟨_, moved⟩ := moves updates
          exact ⟨_, rfl, rfl, .update moved⟩
  | flush limit =>
      cases course with
      | busy busy =>
          obtain ⟨_, _, flushes, _⟩ := (Stands.busy busy).flushes limit 0
          obtain ⟨_, moved⟩ := moves flushes
          exact ⟨_, rfl, rfl, .flush moved⟩
      | ended _ idle _ _ =>
          obtain ⟨_, flushes, _⟩ := idle.flushes limit
          obtain ⟨_, moved⟩ := moves flushes
          exact ⟨_, rfl, rfl, .flush moved⟩

theorem Course.waiting (course : Course line record typing) :
    typing.timeline.pending.length = if typing.world.typewriter.isTyping then 1 else 0 := by
  cases course with
  | busy busy =>
      obtain ⟨number, typewriter, pending⟩ := busy.waits
      rw [typewriter, pending]
      rfl
  | ended _ idle _ _ => simp [Typewriter.isTyping, idle.complete, idle.silent]

/-- Whatever is called and in whatever order, a typewriter keeps its discipline. -/
theorem Follows.types_with_discipline (follows : Follows (Typing.new now interval) turns typing) :
    Disciplined interval turns typing := by
  have fresh := course_new now interval
  obtain ⟨line, record, course, _⟩ := fresh.exists_follows follows
  refine ⟨course.call, signals_follows follows, course.waiting, course.within, ?_⟩
  rintro earlier begun calls later text rfl begins within next
  obtain ⟨_, before, rest⟩ := follows_append.mp follows
  obtain ⟨_, _, course, interval⟩ := fresh.exists_follows before
  cases rest with
  | cons made rest =>
      obtain ⟨_, during, after⟩ := follows_append.mp rest
      have kept := course.kept made begins during within after next
      rwa [course.interval, interval] at kept

/-- A line of which a character is told before it is skipped, and a line that is typed to its
end. -/
theorem types_with_discipline_after_skipping :
    ∃ turns typing, Follows (Typing.new 0 10) turns typing ∧ Disciplined 10 turns typing ∧
      turns.flatMap Turn.signals =
        [.progress 1, .complete true, .progress 1, .complete false] := by
  have follows : Follows (Typing.new 0 10) _ _ :=
    .cons (.start _ "abc") (.cons (@Turn.Made.update 6 10 _ _ rfl) (.cons (.skip _)
      (.cons (.start _ "d") (.cons (@Turn.Made.flush 9 5 _ _ rfl) .nil))))
  exact ⟨_, _, follows, follows.types_with_discipline, by decide +kernel⟩

end VisualNovel.Playback.Typing

/-!
## The pace of a typewriter

A line that is neither skipped nor given up goes on at its pace, however its host moves
the clock. How much of it shows follows from the clock, and so does whether it was told
to be complete.
-/

namespace VisualNovel.Playback

open VisualNovel.Agenda VisualNovel.Clock

def Notice.isCompletion (notice : Notice) : Bool :=
  match notice.signal with
  | .complete _ => true
  | .progress _ => false

namespace Typing

/-- Whether a call leaves the line that is being typed to its timers. -/
def Turn.spares (turn : Turn) : Bool :=
  match turn.call with
  | .update _ | .flush _ => true
  | .skip => !turn.skipped
  | .start _ | .cancel => false

variable {typing first last : Typing} {line : Line} {record : List Notice} {turn : Turn}
  {turns earlier later : List Turn} {text : String} {now interval : Int}

/-- A call that spares a line leaves it to its timers. -/
theorem Stands.spared (stands : Stands line record turn.before) (made : turn.Made)
    (spares : turn.spares = true) : Stands line (record ++ turn.told) turn.after := by
  cases made with
  | start | cancel => contradiction
  | skip typing =>
      cases skips : typing.world.typewriter.skip? typing.timeline with
      | none =>
          simpa [skip, skips, notices] using stands
      | some skipped => simp [Turn.spares, skip, skips] at spares
  | update moved =>
      obtain ⟨_, _, ends, goesOn, _⟩ := stands.updates _
      obtain ⟨rfl, rfl⟩ := ends.unique (completes_iff.mpr ⟨_, moved, rfl⟩)
      exact goesOn
  | flush moved =>
      obtain ⟨_, _, ends, goesOn⟩ := stands.flushes _ 0
      obtain ⟨rfl, rfl⟩ := ends.unique (completes_iff.mpr ⟨_, moved, rfl⟩)
      exact goesOn

theorem Stands.follows (stands : Stands line record first) (follows : Follows first turns last)
    (spared : ∀ turn ∈ turns, turn.spares = true) :
    Stands line (record ++ turns.flatMap Turn.told) last := by
  induction follows generalizing record with
  | nil => simpa using stands
  | @cons turn turns last made _ hypothesis =>
      obtain ⟨spares, rest⟩ := List.forall_mem_cons.mp spared
      have goesOn := hypothesis (stands.spared made spares) rest
      rwa [List.append_assoc, ← List.flatMap_cons] at goesOn

private theorem completions_record (line : Line) (count : Nat) :
    (line.record count).filter Notice.isCompletion = [] := by
  refine List.filter_eq_nil_iff.mpr fun notice member => ?_
  obtain ⟨shown, _, rfl⟩ := List.mem_map.mp member
  simp [Notice.isCompletion, Line.progress]

/-- A line shows what is due, and is told to be complete when all of it is. -/
theorem Stands.shows (stands : Stands line record typing) (takesTime : 0 < line.interval) :
    typing.world.typewriter.reveal.text = line.text ∧
      typing.world.typewriter.reveal.revealed = line.shown typing.timeline.now ∧
      (typing.timeline.now < line.due line.text.length →
        record.filter Notice.isCompletion = []) ∧
      (line.due line.text.length ≤ typing.timeline.now →
        record.filter Notice.isCompletion = [line.ending]) := by
  cases stands with
  | busy busy =>
      obtain ⟨number, typewriter, _⟩ := busy.waits
      have soon : line.due _ ≤ line.due line.text.length :=
        Line.due_le_due takesTime busy.unfinished
      rw [typewriter, Line.shown_eq takesTime (Nat.le_of_lt busy.unfinished) busy.since busy.ahead]
      exact ⟨rfl, rfl, fun _ => completions_record line _,
        fun reached => absurd busy.ahead (Int.not_lt.mpr (Int.le_trans soon reached))⟩
  | finished finished =>
      rw [finished.typed, Line.shown_eq_length takesTime finished.reached]
      refine ⟨rfl, rfl, fun early => absurd finished.reached (Int.not_le.mpr early), fun _ => ?_⟩
      rw [List.filter_append, completions_record]
      rfl

/-- What the calls since a line was begun come to. -/
theorem Follows.stands {begun : Turn}
    (follows : Follows (Typing.new now interval) (earlier ++ begun :: later) typing)
    (begins : begun.call = .start text) (takesTime : 0 < interval)
    (spared : ∀ turn ∈ later, turn.spares = true) :
    begun.before.world.typewriter.interval = interval ∧
      Stands (begun.before.world.typewriter.line text begun.before.timeline)
        ((begun :: later).flatMap Turn.told) typing := by
  obtain ⟨_, before, rest⟩ := follows_append.mp follows
  obtain ⟨_, _, course, interval⟩ := (course_new now _).exists_follows before
  cases rest with
  | cons made rest =>
      have same : begun.before.world.typewriter.interval = _ := course.interval.trans interval
      refine ⟨same, ?_⟩
      cases made with
      | skip | cancel | update | flush => contradiction
      | start typing begun =>
          obtain rfl := Call.start.inj begins
          exact (course.stands begun (by rwa [same])).follows rest spared

end Typing

end VisualNovel.Playback
