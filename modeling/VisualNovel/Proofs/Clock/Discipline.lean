import VisualNovel.Proofs.Clock.Happenings
import VisualNovel.Proofs.Clock.Pacing

/-!
# Discipline of timers

Timers are set and cancelled, and the clock is moved to any times, with callbacks
that set and cancel timers too, or fail. However long that goes on, timers go off in
the order in which they are due, each at most once and unless it was cancelled, and
a callback finds the clock where its timer was due. A move of the clock leaves no
timer behind that was due.
-/

set_option autoImplicit false

namespace VisualNovel.Clock

open VisualNovel.Agenda

variable {κ η : Type}

def ScheduleRequest.Drives : ScheduleRequest κ → Prop
  | .later _ _ _ | .cancel _ | .cancelAll | .update _ => True
  | .close | .flush _ | .now | .nextDue | .isClosed => False

namespace Schedule

def happening : Job (ScheduleTask κ η) → Schedule κ η → List Happening
  | .work (.request (.later delay label cue)), schedule =>
      let ((number, due), _) := schedule.timeline.later delay label cue
      [.set number due]
  | .work (.request (.cancel number)), schedule =>
      if number < schedule.timeline.issued then [.cancel number] else []
  | .work (.request .cancelAll), schedule =>
      schedule.timeline.pending.map fun timer => .cancel timer.number
  | .work (.request .now), schedule => [.read schedule.timeline.now]
  | .work (.script _ _), schedule => [.read schedule.timeline.now]
  | .drain time _, schedule =>
      (schedule.timeline.takeDue? time).toList.map fun (timer, _) =>
        .fire timer.number timer.due
  | _, _ => []

def Records (callbacks : κ → ScheduleScript κ η) (before : Schedule κ η)
    (made : ScheduleRequest κ) (seen : List Happening) (answer : ScheduleAnswer)
    (after : Schedule κ η) : Prop :=
  ∃ budget, perform? callbacks budget made before = some (answer, after) ∧
    watch happening (clockwork callbacks).step budget [.work (.request made)] before = seen

/-- What was done to a schedule from the first, told by what happened. -/
inductive Driven (callbacks : κ → ScheduleScript κ η) (first : Schedule κ η) :
    List Happening → Schedule κ η → Prop where
  | start : Driven callbacks first [] first
  | perform {record seen : List Happening} {schedule after : Schedule κ η}
      {made : ScheduleRequest κ} {answer : ScheduleAnswer} :
      Driven callbacks first record schedule → Records callbacks schedule made seen answer after →
      made.Drives →
      Driven callbacks first (record ++ seen) after

/-- The clock was moved to a time: it has not gone back, nothing that was due is left, and the
answer is how many timers went off. -/
structure Arrived (record seen : List Happening) (before : Timeline κ) (time : Int)
    (answer : ScheduleAnswer) (after : Timeline κ) : Prop where
  clock : after.now = max before.now time
  done : ∀ {number due}, .set number due ∈ record ++ seen → due ≤ after.now →
    .fire number due ∈ record ++ seen ∨ .cancel number ∈ record ++ seen
  ahead : ∀ timer ∈ after.pending, after.now < timer.due
  counts : answer = .count (firings seen).length

variable {callbacks : κ → ScheduleScript κ η} {schedule before after : Schedule κ η}
  {record seen : List Happening} {time : Int} {ran : Nat} {made : ScheduleRequest κ}
  {answer : ScheduleAnswer}

def AtFiring (record : List Happening) (schedule : Schedule κ η) : Prop :=
  ∃ number, (firings record).getLast? = some (schedule.timeline.now, number)

private theorem firings_begin (ordinary : made.Ordinary) (schedule : Schedule κ η) :
    firings (happening (.work (.request made)) schedule : List Happening) = [] := by
  refine List.filterMap_eq_nil_iff.mpr fun happened member => ?_
  cases made with
  | later delay label cue =>
      obtain rfl := List.mem_singleton.mp member
      rfl
  | cancel number =>
      simp only [happening, List.mem_ite_nil_right, List.mem_singleton] at member
      rw [member.2]
      rfl
  | cancelAll =>
      obtain ⟨timer, _, rfl⟩ := List.mem_map.mp member
      rfl
  | now =>
      obtain rfl := List.mem_singleton.mp member
      rfl
  | nextDue | isClosed => nomatch member
  | update time => contradiction
  | flush limit => contradiction
  | close => contradiction

/-- An ordinary operation is recorded as what happens when it is taken up. -/
private theorem recorded_begin (ordinary : made.Ordinary)
    (recorded : Recorded record schedule.timeline)
    (reads : made = .now → AtFiring record schedule) :
    Recorded (record ++ happening (.work (.request made)) schedule)
      (schedule.begin made).1.timeline := by
  cases made with
  | later delay label cue => exact recorded.later delay label cue
  | cancel number =>
      by_cases known : number < schedule.timeline.issued
      · rw [happening, if_pos known]
        exact recorded.cancel known
      · rw [happening, if_neg known, List.append_nil]
        exact recorded.cancel_unknown (Nat.le_of_not_lt known)
  | cancelAll => exact recorded.cancelAll
  | now =>
      obtain ⟨number, last⟩ := reads rfl
      exact recorded.read last
  | nextDue | isClosed =>
      rw [happening.eq_def, List.append_nil]
      exact recorded
  | update time => contradiction
  | flush limit => contradiction
  | close => contradiction

inductive Busy (time : Int) (ran : Nat) : List (Job (ScheduleTask κ η)) → Prop where
  | drained : Busy time ran [.drained time ran]
  | script {timer : String} {rest : ScheduleScript κ η} :
      rest.Asks ScheduleRequest.Ordinary →
      Busy time ran [.work (.script timer rest), .drained time ran]
  | request {timer : String} {made : ScheduleRequest κ}
      {next : ScheduleAnswer → ScheduleScript κ η} :
      made.Ordinary → (∀ answer, (next answer).Asks ScheduleRequest.Ordinary) →
      Busy time ran [.work (.request made), .work (.resume timer next), .drained time ran]
  | resume {timer : String} {next : ScheduleAnswer → ScheduleScript κ η} :
      (∀ answer, (next answer).Asks ScheduleRequest.Ordinary) →
      Busy time ran [.work (.resume timer next), .drained time ran]

/-- What is left of a move of the clock to a time when so many timers went off. -/
inductive Moving (time : Int) (ran : Nat) (record : List Happening) (schedule : Schedule κ η) :
    List (Job (ScheduleTask κ η)) → Prop where
  | waits : Moving time ran record schedule [.drain time ran]
  | works {jobs : List (Job (ScheduleTask κ η))} :
      Busy time ran jobs → AtFiring record schedule → Moving time ran record schedule jobs
  | arrived : schedule.timeline.now = time → (∀ timer ∈ schedule.timeline.pending, time < timer.due) →
      schedule.ran = ran → Moving time ran record schedule []

/-- A schedule on record whose clock has not passed the time to which it is moved. -/
structure Underway (time : Int) (ran : Nat) (record : List Happening) (schedule : Schedule κ η)
    (jobs : List (Job (ScheduleTask κ η))) : Prop where
  recorded : Recorded record schedule.timeline
  past : schedule.timeline.now ≤ time
  moving : Moving time ran record schedule jobs

theorem AtFiring.quiet {seen : List Happening} (reached : AtFiring record schedule)
    (quiet : firings seen = []) (now : after.timeline.now = schedule.timeline.now) :
    AtFiring (record ++ seen) after := by
  unfold AtFiring
  rw [firings_append, quiet, List.append_nil, now]
  exact reached

private theorem Underway.step_script {timer : String} {rest : ScheduleScript κ η}
    (asks : rest.Asks ScheduleRequest.Ordinary) (recorded : Recorded record schedule.timeline)
    (reached : AtFiring record schedule) (past : schedule.timeline.now ≤ time) :
    Underway time ran (record ++ [.read schedule.timeline.now])
      ((clockwork callbacks).step (.work (.script timer rest)) schedule).1
      (((clockwork callbacks).step (.work (.script timer rest)) schedule).2 ++
        [.drained time ran]) := by
  obtain ⟨number, last⟩ := reached
  have read := recorded.read last
  have stays : AtFiring (record ++ [.read schedule.timeline.now]) schedule :=
    AtFiring.quiet ⟨number, last⟩ rfl rfl
  simp only [Clockwork.step, clockwork, act]
  cases pauses : rest.proceed schedule.world.notes with
  | mk pause notes =>
      cases pause with
      | done => exact ⟨read, past, .works .drained stays⟩
      | failed => exact ⟨read, past, .works .drained stays⟩
      | asks made next =>
          obtain ⟨ordinary, more⟩ := asks.proceed pauses
          exact ⟨read, past, .works (.request ordinary more) stays⟩

private theorem Underway.step_drain (ordinary : Ordinary callbacks)
    (recorded : Recorded record schedule.timeline) (past : schedule.timeline.now ≤ time) :
    Underway time (ran + (firings (happening (.drain time ran) schedule)).length)
      (record ++ happening (.drain time ran) schedule)
      ((clockwork callbacks).step (.drain time ran) schedule).1
      ((clockwork callbacks).step (.drain time ran) schedule).2 := by
  dsimp only [happening]
  cases taken : schedule.timeline.takeDue? time with
  | none =>
      rw [Clockwork.step_drain_idle taken, Option.toList_none, List.map_nil, List.append_nil]
      have ahead := recorded.orderly.due_of_takeDue_eq_none taken
      exact ⟨recorded.settle past taken, Int.le_refl _, .arrived rfl ahead rfl⟩
  | some found =>
      obtain ⟨timer, timeline⟩ := found
      obtain ⟨fired, last⟩ := recorded.takeDue taken
      obtain ⟨_, due, now, _⟩ := recorded.orderly.takeDue taken
      rw [Clockwork.step_drain_fire taken]
      exact ⟨fired, now ▸ due, .works (.script (ordinary timer.payload)) ⟨_, last⟩⟩

/-- One job of a move of the clock leaves the rest of it. -/
theorem Underway.step (ordinary : Ordinary callbacks) {job : Job (ScheduleTask κ η)}
    {rest : List (Job (ScheduleTask κ η))}
    (underway : Underway time ran record schedule (job :: rest)) :
    Underway time (ran + (firings (happening job schedule)).length)
      (record ++ happening job schedule) ((clockwork callbacks).step job schedule).1
      (((clockwork callbacks).step job schedule).2 ++ rest) := by
  obtain ⟨recorded, past, moving⟩ := underway
  cases moving with
  | waits =>
      rw [List.append_nil]
      exact .step_drain ordinary recorded past
  | works busy reached =>
      cases busy with
      | drained =>
          have quiet : happening (.drained time ran) schedule = [] := rfl
          rw [Clockwork.step_drained recorded.orderly.isOpen, quiet, List.append_nil]
          exact ⟨recorded, past, .waits⟩
      | script asks => exact .step_script asks recorded reached past
      | @request _ made next allowed asks =>
          obtain ⟨done, _, now⟩ := begin_ordinary schedule allowed
          have quiet := firings_begin allowed schedule
          have begun : (clockwork callbacks).step (.work (.request made)) schedule =
              ((schedule.begin made).1, []) := Prod.ext rfl done
          rw [begun, quiet]
          exact ⟨recorded_begin allowed recorded fun _ => reached, now ▸ past,
            .works (.resume asks) (reached.quiet quiet now)⟩
      | @resume timer next asks =>
          have quiet : happening (.work (.resume timer next)) schedule = [] := rfl
          rw [quiet, List.append_nil]
          exact ⟨recorded, past, .works (.script (asks _)) reached⟩

theorem Underway.completes (ordinary : Ordinary callbacks) {jobs : List (Job (ScheduleTask κ η))}
    (underway : Underway time ran record schedule jobs)
    (completes : Completes happening (clockwork callbacks).step jobs schedule seen after) :
    Underway time (ran + (firings seen).length) (record ++ seen) after [] := by
  induction completes generalizing ran record with
  | nil => simpa [firings] using underway
  | @cons job rest state final later _ hypothesis =>
      have next := hypothesis (underway.step ordinary)
      rwa [Nat.add_assoc, ← List.length_append, ← firings_append, List.append_assoc] at next

private theorem records_iff :
    Records callbacks before made seen answer after ↔
      Completes happening (clockwork callbacks).step [.work (.request made)] before seen after ∧
        after.world.answer = answer :=
  completes_given_iff

private theorem records_update (isOpen : before.timeline.closed = false)
    (records : Records callbacks before (.update time) seen answer after) :
    ∃ middle : Schedule κ η,
      Completes happening (clockwork callbacks).step [.drain (max before.timeline.now time) 0] before
        seen middle ∧ after = middle.reply (.count middle.ran) ∧ answer = .count middle.ran := by
  obtain ⟨completes, rfl⟩ := records_iff.mp records
  obtain ⟨_, rfl, begun⟩ := completes.uncons rfl
  obtain ⟨_, rfl, moved⟩ := begun.uncons (Clockwork.step_update isOpen)
  obtain ⟨middle, earlier, later, drain, count, rfl⟩ := Completes.split moved
  obtain ⟨_, rfl, done⟩ := count.uncons rfl
  cases done with
  | nil => exact ⟨middle, by simpa [happening] using drain, rfl, rfl⟩

private theorem recorded_update (ordinary : Ordinary callbacks)
    (recorded : Recorded record before.timeline)
    (records : Records callbacks before (.update time) seen answer after) :
    Recorded (record ++ seen) after.timeline ∧
      Arrived record seen before.timeline time answer after.timeline := by
  obtain ⟨middle, drain, rfl, rfl⟩ := records_update recorded.orderly.isOpen records
  have underway : Underway (max before.timeline.now time) 0 record before
      [.drain (max before.timeline.now time) 0] := ⟨recorded, Int.le_max_left _ _, .waits⟩
  obtain ⟨left, _, moving⟩ := underway.completes ordinary drain
  cases moving with
  | works busy _ => nomatch busy
  | arrived reached ahead counted =>
      refine ⟨left, reached, ?_, ?_, ?_⟩
      · intro number due set passed
        rcases left.settled number due set with ⟨timer, pending, _, rfl⟩ | settled
        · have late := ahead timer pending
          change timer.due ≤ middle.timeline.now at passed
          omega
        · exact settled
      · exact fun timer pending => reached ▸ ahead timer pending
      · rw [counted, Nat.zero_add]

theorem recorded_ordinary (recorded : Recorded record before.timeline)
    (records : Records callbacks before made seen answer after) (allowed : made.Ordinary)
    (reads : made ≠ .now) :
    Recorded (record ++ seen) after.timeline := by
  obtain ⟨completes, rfl⟩ := records_iff.mp records
  have begun : (clockwork callbacks).step (.work (.request made)) before =
      ((before.begin made).1, []) := Prod.ext rfl (begin_ordinary before allowed).1
  obtain ⟨_, rfl, done⟩ := completes.uncons begun
  cases done with
  | nil =>
      rw [List.append_nil]
      exact recorded_begin allowed recorded fun same => absurd same reads

theorem Driven.recorded {first : Int} {notes : η} (ordinary : Ordinary callbacks)
    (driven : Driven callbacks (new first notes) record schedule) :
    Recorded record schedule.timeline := by
  induction driven with
  | start => exact recorded_nil first
  | @perform record seen schedule after made answer _ records drives recorded =>
      cases made with
      | update time => exact (recorded_update ordinary recorded records).1
      | later delay label cue => exact recorded_ordinary recorded records trivial nofun
      | cancel number => exact recorded_ordinary recorded records trivial nofun
      | cancelAll => exact recorded_ordinary recorded records trivial nofun
      | close | flush | now | nextDue | isClosed => contradiction

/-- However timers are set and cancelled and the clock is moved, timers go off as they should,
and a move of the clock arrives. -/
theorem Driven.keeps_discipline {first : Int} {notes : η} (ordinary : Ordinary callbacks)
    (driven : Driven callbacks (new first notes) record schedule) :
    Disciplined record ∧
      ∀ time seen answer after, Records callbacks schedule (.update time) seen answer after →
        Disciplined (record ++ seen) ∧
          Arrived record seen schedule.timeline time answer after.timeline := by
  have recorded := driven.recorded ordinary
  refine ⟨recorded.disciplined, ?_⟩
  intro time seen answer after records
  obtain ⟨kept, arrived⟩ := recorded_update ordinary recorded records
  exact ⟨kept.disciplined, arrived⟩

theorem beats_ordinary : Ordinary beats := by
  intro cue
  cases cue with
  | false => trivial
  | true => exact ⟨trivial, fun _ => ⟨trivial, fun _ => ⟨trivial, fun _ => trivial⟩⟩⟩

theorem keeps_discipline_beats :
    Ordinary beats ∧ ∃ record schedule seen after,
      record = [.set 0 3, .set 1 4, .fire 0 3, .read 3, .read 3, .read 3, .set 2 7, .read 3,
        .cancel 1, .read 3] ∧
      seen = [.fire 2 7, .read 7, .read 7, .read 7, .set 3 11, .read 7, .cancel 1, .read 7] ∧
      Driven beats (new 0 []) record schedule ∧
      Records beats schedule (.update 8) seen (.count 1) after ∧
      Disciplined (record ++ seen) ∧
      Arrived record seen schedule.timeline 8 (.count 1) after.timeline := by
  have driven : Driven beats (new 0 []) _ _ :=
    ((Driven.start.perform
      (⟨1, rfl, rfl⟩ : Records beats (new 0 []) (.later 3 "beat" true) _ _ _) trivial).perform
      (⟨1, rfl, rfl⟩ : Records beats _ (.later 4 "alarm" false) _ _ _) trivial).perform
      (⟨40, rfl, rfl⟩ : Records beats _ (.update 5) _ _ _) trivial
  refine ⟨beats_ordinary, _, _, _, _, ?_, ?_, driven, ⟨40, rfl, rfl⟩, ?_⟩
  · rfl
  · rfl
  · exact (driven.keeps_discipline beats_ordinary).2 8 _ _ _ ⟨40, rfl, rfl⟩

end Schedule

end VisualNovel.Clock
