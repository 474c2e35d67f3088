import VisualNovel.Proofs.Playback.Cadence
import VisualNovel.Proofs.Playback.Standing
import VisualNovel.Proofs.Playback.Typing.Discipline

/-!
# Characters that show in time

How many characters of a line show follows from the time it was begun and from the
clock, as long as the line is left alone: the time since then holds so many intervals.
It does not matter how the clock was moved, or what else it made go off. That the line
is complete is told once, at the time when its last character shows.
-/

set_option autoImplicit false

namespace VisualNovel.Playback

open VisualNovel.Agenda VisualNovel.Clock VisualNovel.Event VisualNovel.Novel VisualNovel.Sound

variable {β κ η : Type}

namespace Session

/-- The text of the line that a job begins to type, none if it begins none. -/
def begun? (session : Session β κ η) : Job (Task κ η) → Option String
  | .work .typeLine | .work (.request .startTyping) => do
      let _ ← typeLine? session
      let dialogue ← session.world.dialogue?
      return dialogue.text
  | _ => none

variable {line : Line} {before : List (Int × Event)} {job : Job (Task κ η)}
  {made rest jobs left : List (Job (Task κ η))} {first session next last : Session β κ η}
  {text : String}

/-- No move of the clock is made beyond one that it is part of. -/
def within : Admission β κ η :=
  fun job rest _ => job.isWithin rest

/-! ## Lines that begin -/

theorem exists_of_begun (begins : session.begun? job = some text) :
    ∃ move dialogue, typeLine? session = some move ∧ session.world.dialogue? = some dialogue ∧
      dialogue.text = text ∧ (job = .work .typeLine ∨ job = .work (.request .startTyping)) := by
  unfold begun? at begins
  split at begins
  · obtain ⟨move, types, begins⟩ := Option.bind_eq_some_iff.mp begins
    obtain ⟨dialogue, found, begins⟩ := Option.bind_eq_some_iff.mp begins
    exact ⟨move, dialogue, types, found, Option.some.inj begins, .inl rfl⟩
  · obtain ⟨move, types, begins⟩ := Option.bind_eq_some_iff.mp begins
    obtain ⟨dialogue, found, begins⟩ := Option.bind_eq_some_iff.mp begins
    exact ⟨move, dialogue, types, found, Option.some.inj begins, .inr rfl⟩
  · contradiction

/-- What typing a line comes to. -/
theorem typeLine?_eq_some {move : Move β κ η} {dialogue : Dialogue}
    (types : typeLine? session = some move) (found : session.world.dialogue? = some dialogue) :
    session.world.isActive = true ∧
      move = heed
        (withTyped (withPosition session fun position =>
            { position with textLength := dialogue.text.length, revealed := 0 })
          (session.world.typewriter.start .strike dialogue.text session.timeline).2)
        (session.world.typewriter.start .strike dialogue.text session.timeline).1 := by
  unfold typeLine? at types
  simp only [found] at types
  split at types
  · contradiction
  · next active =>
      have going : session.world.isActive = true ∧ session.world.position.finished = false := by
        simpa using active
      exact ⟨going.1, (Option.some.inj types).symm⟩

/-- No timer is there yet for a line that is about to begin. -/
theorem Dated.strikes_next (dated : session.Dated) {generation : Nat}
    (past : session.world.typewriter.generation < generation) (number : Option Nat) :
    (session.timeline.cancel? number).pending.filter (·.payload.reveals generation) = [] := by
  refine List.filter_eq_nil_iff.mpr fun timer member reveals => ?_
  cases payload : timer.payload with
  | commit | clear | ring => simp [payload, Alarm.reveals] at reveals
  | strike struck =>
      have known := dated timer (Typewriter.mem_pending_cancel? member) struck payload
      simp only [payload, Alarm.reveals, beq_iff_eq] at reveals
      omega

/-- A line that begins waits for its first character, or shows as a whole if it has none. -/
theorem Beats.begins {move : Move β κ η} {dialogue : Dialogue}
    (types : typeLine? session = some move) (found : session.world.dialogue? = some dialogue)
    (dated : session.Dated) (isOpen : session.timeline.closed = false)
    (takesTime : 0 < session.world.typewriter.interval)
    (calm : Calm (session.world.typewriter.generation + 1) rest) :
    Beats (session.world.typewriter.line dialogue.text session.timeline) session.completions
      (move.2.map .work ++ rest) move.1 := by
  obtain ⟨_, rfl⟩ := typeLine?_eq_some types found
  have none := dated.strikes_next (Nat.lt_succ_self _) session.world.typewriter.timer
  have now : (session.timeline.cancel? session.world.typewriter.timer).now = session.timeline.now :=
    Timeline.cancel?_now _
  have began := (session.world.typewriter.line dialogue.text session.timeline).due_zero
  by_cases empty : dialogue.text.length = 0
  · rw [Typewriter.start_line_at_once _ _ (.inl empty)]
    have due : (session.world.typewriter.line dialogue.text session.timeline).due
        dialogue.text.length = session.timeline.now := by
      rw [empty]
      exact began
    refine .completes session.world.position.scene session.world.position.dialogue
      ⟨⟨rfl, rfl, rfl, none, rfl, calm⟩, ?_⟩ ?_
    · exact Int.le_of_eq (due.trans now.symm)
    · exact now.trans due.symm
  · rw [Typewriter.start_line isOpen empty takesTime]
    have next := (session.world.typewriter.line dialogue.text session.timeline).due_succ 0
    have early : session.timeline.now <
        (session.world.typewriter.line dialogue.text session.timeline).due (0 + 1) := by
      rw [next, began]
      exact Int.lt_add_of_pos_right _ takesTime
    rw [← now] at early
    refine .waits (?_ : Waits (session.world.typewriter.line dialogue.text session.timeline)
      session.completions 0 session.timeline.issued rest _)
    exact {
      typewriter := rfl
      unfinished := Nat.pos_of_ne_zero empty
      revealed := rfl
      length := rfl
      strikes := filter_insertTimer_of_none
        (by simp [Line.timer, Alarm.reveals, Typewriter.line]) none
      since := Int.le_of_eq (began.trans now.symm)
      «until» := Int.le_of_lt early
      reached := fun now => absurd now (Int.ne_of_lt early)
      completions := rfl
      calm }

private theorem calm_of_patient {generation : Nat} (patient : Patient (job :: rest)) :
    Calm generation rest := by
  intro later member
  have waits := patient.rest.1 later member
  cases later with
  | update | drain | drained | flush | flushed => rfl
  | work task =>
      cases task with
      | strike | emit => simp [Job.any, Task.isUrgent] at waits
      | request | reply | replyCount | deliver | script | resume | enterScene | enterDialogue
      | typeLine | beginTransition | awaitCommit | commit | awaitClear | clear
      | forgetListeners => rfl

/-! ## A line that is left alone -/

variable [Device β] [DecidableEq κ] {callbacks : Callbacks κ η} {novel : Novel}
  {preferences : Preferences} {device : β} {now : Int} {notes : η}

private theorem Unfolds.loosened {admits : Admission β κ η}
    (unfolds : Unfolds callbacks admits left first jobs session) :
    Unfolds callbacks freely left first jobs session := by
  induction unfolds with
  | refl => exact .refl
  | works _ _ hypothesis => exact hypothesis.works rfl
  | asks made _ hypothesis => exact hypothesis.asks made
  | listens name cue _ hypothesis => exact hypothesis.listens name cue

/-- Where no move of the clock goes beyond one that it is part of, the moves under way are always
nested. -/
theorem Unfolds.nested (unfolds : Unfolds callbacks within left first jobs session)
    (nested : Nested left first) : Nested jobs session := by
  induction unfolds with
  | refl => exact nested
  | works _ admitted hypothesis => exact hypothesis.step (keepsTime callbacks) admitted
  | asks made _ hypothesis => exact hypothesis
  | listens name cue _ hypothesis => exact hypothesis

/-- When a line is about to begin, the timers are in order, none of them is for the line, and none
of what is left to be done is. -/
theorem Unfolds.before_line {move : Move β κ η} {dialogue : Dialogue}
    (unfolds : Unfolds callbacks freely [] (new novel preferences device now notes) (job :: rest)
      session)
    (types : typeLine? session = some move) (found : session.world.dialogue? = some dialogue)
    (nested : Nested (job :: rest) session) :
    Timed (job :: rest) session ∧ session.Dated ∧
      Calm (session.world.typewriter.generation + 1) rest := by
  obtain ⟨active, _⟩ := typeLine?_eq_some types found
  have playing : session.world.stopped = false := by
    simp only [Stage.isActive, Bool.and_eq_true, Bool.not_eq_true'] at active
    exact active.2
  have sealable := unfolds.sealable (sealable_new novel preferences device now notes)
  have isOpen := sealable.isOpen_of_active active
  have regular := unfolds.regular (regular_new novel preferences device now notes)
  have prompt := unfolds.prompt (prompt_new novel preferences device now notes) isOpen
  exact ⟨⟨regular.orderly (unfolds.ticking rfl isOpen), nested, playing⟩, regular.dated,
    calm_of_patient prompt.patient⟩

/-- What becomes of a session when a line begins. -/
theorem Unfolds.begins
    (unfolds : Unfolds callbacks freely [] (new novel preferences device now notes) (job :: rest)
      session)
    (begins : session.begun? job = some text) (nested : Nested (job :: rest) session)
    (takesTime : 0 < session.world.typewriter.interval) :
    Timed (((clockwork callbacks).step job session).2 ++ rest)
        ((clockwork callbacks).step job session).1 ∧
      Beats (session.world.typewriter.line text session.timeline) session.completions
        (((clockwork callbacks).step job session).2 ++ rest)
        ((clockwork callbacks).step job session).1 := by
  obtain ⟨move, dialogue, types, found, rfl, begun⟩ := exists_of_begun begins
  obtain ⟨timed, dated, calm⟩ := unfolds.before_line types found nested
  have ticking := timed.orderly.isOpen
  rcases begun with rfl | rfl
  · have moves : Task.isMove (.typeLine : Task κ η) = true := rfl
    have continues := continues_step callbacks moves session
    refine ⟨timed.tends continues.timeline (targets_act callbacks .typeLine session)
      continues.stopped, ?_⟩
    have same : (clockwork callbacks).step (.work .typeLine) session = jobs move := by
      show jobs ((typeLine? session).getD (session, [])) = _
      rw [types]
      rfl
    rw [same]
    exact .begins types found dated ticking takesTime calm
  · have plays : (Request.startTyping : Request κ).Plays := trivial
    have tends := tends_begin plays session
    refine ⟨timed.tends tends.timeline (targets_act callbacks (.request .startTyping) session)
      tends.stopped, ?_⟩
    have same : (clockwork callbacks).step (.work (.request .startTyping)) session =
        (move.1, move.2.map .work ++ [.work (.reply (.flag true))]) := by
      show jobs (startTyping session) = _
      simp [startTyping, types, jobs]
    rw [same]
    simp only [List.append_assoc, List.singleton_append]
    refine .begins types found dated ticking takesTime ?_
    exact List.forall_mem_cons.mpr ⟨rfl, calm⟩

/-- A line that is left alone goes on, whatever is done and whatever the host asks for. -/
theorem Unfolds.beats
    (alone : Unfolds callbacks (undisturbed callbacks) left first jobs last)
    (timed : Timed left first) (beats : Beats line before left first)
    (takesTime : 0 < line.interval) : Timed jobs last ∧ Beats line before jobs last := by
  induction alone with
  | refl => exact ⟨timed, beats⟩
  | works _ admitted hypothesis => exact hypothesis.2.step hypothesis.1 takesTime admitted
  | asks made _ hypothesis =>
      -- a request is no move of the clock yet, so none is under way after it either
      obtain ⟨timed, beats⟩ := hypothesis
      refine ⟨⟨timed.orderly, timed.nested, timed.playing⟩, ?_⟩
      cases beats with
      | waits waits => exact .waits { waits with calm := by simp [Calm, Job.any, Task.isTyping] }
      | rests scene dialogue whole =>
          exact .rests scene dialogue { whole with calm := by simp [Calm, Job.any, Task.isTyping] }
  | listens name cue _ hypothesis =>
      obtain ⟨timed, beats⟩ := hypothesis
      refine ⟨⟨timed.orderly, timed.nested, timed.playing⟩, ?_⟩
      cases beats with
      | waits waits => exact .waits { waits with }
      | rests scene dialogue whole => exact .rests scene dialogue { whole with }

omit [Device β] [DecidableEq κ] in
/-- Between calls a line shows what is due. -/
theorem Beats.shows (beats : Beats line before [] session) (takesTime : 0 < line.interval) :
    session.world.typewriter.reveal.text = line.text ∧
      session.world.typewriter.reveal.revealed = line.shown session.timeline.now ∧
      session.world.position.revealed = line.shown session.timeline.now ∧
      (session.timeline.now < line.due line.text.length → session.completions = before) ∧
      (line.due line.text.length ≤ session.timeline.now → ∃ scene dialogue,
        session.completions =
          (line.due line.text.length, .typingComplete scene dialogue false) :: before) := by
  cases beats with
  | @waits count number _ _ waits =>
      -- no move of the clock is under way that would make the timer go off, so it is not due
      have early : session.timeline.now < line.due (count + 1) := by
        refine Int.lt_iff_le_and_ne.mpr ⟨waits.until, fun reached => ?_⟩
        obtain ⟨_, member, _⟩ := waits.reached reached
        contradiction
      have soon : line.due (count + 1) ≤ line.due line.text.length :=
        Line.due_le_due takesTime waits.unfinished
      have shown := Line.shown_eq takesTime (Nat.le_of_lt waits.unfinished) waits.since early
      rw [waits.typewriter, waits.revealed, shown]
      exact ⟨rfl, rfl, rfl, fun _ => waits.completions,
        fun reached => absurd early (Int.not_lt.mpr (Int.le_trans soon reached))⟩
  | rests scene dialogue whole =>
      have shown := Line.shown_eq_length takesTime whole.since
      rw [whole.typewriter, whole.revealed, shown]
      exact ⟨rfl, rfl, rfl, fun early => absurd whole.since (Int.not_le.mpr early),
        fun _ => ⟨scene, dialogue, whole.completions⟩⟩

/-- Where callbacks make no moves of their own, the clock can be moved on to any time. -/
theorem Stands.updates {seen : List Sight} (stands : session.Stands seen)
    (quiet : callbacks.Quiet) (time : Int) :
    ∃ sights answer after, Performs callbacks session (.update time) sights answer after ∧
      after.timeline.now = max session.timeline.now time := by
  have plays : (Request.update time : Request κ).Plays := trivial
  obtain ⟨sights, after, performs, shows, _⟩ := stands.responds quiet plays
  refine ⟨sights, _, after, performs, ?_⟩
  rw [shows.timeline]
  exact Player.now_drain _ _

end Session

/-- A line that is neither skipped nor begun again nor given up shows as many characters as there
were intervals since it was begun, and is told to be complete once, at the time when the last of
them was due. So it is for a typewriter that has a timeline to itself, and so in a session whatever
its callbacks do besides, as long as none of them moves the clock beyond a move that it is part of:
if none ever did, the moves under way are nested when the line begins. Where callbacks make no
moves of their own the clock can be moved on to any time. -/
theorem types_in_time :
    (∀ {now interval : Int} {earlier later : List Typing.Turn} {begun : Typing.Turn}
        {text : String} {typing : Typing},
      Typing.Follows (Typing.new now interval) (earlier ++ begun :: later) typing →
      begun.call = .start text → 0 < interval → (∀ turn ∈ later, turn.spares = true) →
      let began := begun.before.timeline.now
      let told := (begun :: later).flatMap Typing.Turn.told
      (∀ call, ∃ turn : Typing.Turn, turn.before = typing ∧ turn.call = call ∧ turn.Made) ∧
        typing.world.typewriter.reveal.text = text ∧
        typing.world.typewriter.reveal.revealed =
          min (text.length : Int) ((typing.timeline.now - began) / interval) ∧
        (typing.timeline.now < began + text.length * interval →
          told.filter Notice.isCompletion = []) ∧
        (began + text.length * interval ≤ typing.timeline.now →
          told.filter Notice.isCompletion =
            [⟨begun.before.world.typewriter.generation + 1, began + text.length * interval,
              .complete false⟩])) ∧
    (∀ {β κ η : Type} [Device β] [DecidableEq κ] {callbacks : Callbacks κ η} {novel : Novel}
        {preferences : Preferences} {device : β} {now : Int} {notes : η}
        {job : Job (Task κ η)} {rest : List (Job (Task κ η))} {session last : Session β κ η}
        {text : String},
      Session.Unfolds callbacks Session.freely [] (Session.new novel preferences device now notes)
        (job :: rest) session →
      session.begun? job = some text → Nested (job :: rest) session →
      0 < session.world.typewriter.interval →
      Session.Unfolds callbacks (Session.undisturbed callbacks)
        (((Session.clockwork callbacks).step job session).2 ++ rest)
        ((Session.clockwork callbacks).step job session).1 [] last →
      let began := session.timeline.now
      let interval := session.world.typewriter.interval
      last.world.typewriter.reveal.text = text ∧
        last.world.typewriter.reveal.revealed =
          min (text.length : Int) ((last.timeline.now - began) / interval) ∧
        last.world.position.revealed =
          min (text.length : Int) ((last.timeline.now - began) / interval) ∧
        (last.timeline.now < began + text.length * interval →
          last.completions = session.completions) ∧
        (began + text.length * interval ≤ last.timeline.now → ∃ scene dialogue,
          last.completions =
            (began + text.length * interval, .typingComplete scene dialogue false) ::
              session.completions)) ∧
    (∀ {β κ η : Type} [Device β] [DecidableEq κ] {callbacks : Callbacks κ η} {novel : Novel}
        {preferences : Preferences} {device : β} {now : Int} {notes : η}
        {jobs : List (Job (Task κ η))} {session : Session β κ η},
      Session.Unfolds callbacks Session.within [] (Session.new novel preferences device now notes)
        jobs session →
      Session.Unfolds callbacks Session.freely [] (Session.new novel preferences device now notes)
          jobs session ∧
        Nested jobs session) ∧
    ∀ {β κ η : Type} [Device β] [DecidableEq κ] {callbacks : Callbacks κ η}
        {first last : Session β κ η} {turns : List (Turn β κ η)},
      Session.History callbacks first turns last → first.Fresh → callbacks.Quiet →
      ∀ time, ∃ sights answer after,
        Session.Performs callbacks last (.update time) sights answer after ∧
          after.timeline.now = max last.timeline.now time := by
  refine ⟨?_, ?_, ?_, ?_⟩
  · intro now interval earlier later begun text typing follows begins takesTime spared
    obtain ⟨same, stands⟩ := follows.stands begins takesTime spared
    have shows := stands.shows (by rwa [Typewriter.line, same])
    rw [Typewriter.line, same] at shows
    exact ⟨stands.course.call, shows⟩
  · intro β κ η _ _ callbacks novel preferences device now notes job rest session last text
      unfolds begins nested takesTime alone
    obtain ⟨timed, beats⟩ := unfolds.begins begins nested takesTime
    exact (alone.beats timed beats takesTime).2.shows takesTime
  · intro β κ η _ _ callbacks novel preferences device now notes jobs session unfolds
    exact ⟨unfolds.loosened, unfolds.nested (nested_of_idle rfl _)⟩
  · intro β κ η _ _ callbacks first last turns history fresh quiet time
    exact (history.stands quiet fresh.stands).updates quiet time

theorem types_in_time_after_updates :
    (∃ turns typing, Typing.Follows (Typing.new 0 10) turns typing ∧
      (typing.world.typewriter.reveal.revealed : Int) = 2) ∧
    (∃ (job : Job (Task String Unit)) (rest : List (Job (Task String Unit)))
      (session last : Session Rehearsal String Unit),
      Session.Unfolds Sample.nobody Session.within []
          (Session.new Sample.serenade {} Rehearsal.willing 0 ()) (job :: rest) session ∧
        session.begun? job = some "Ahoy!" ∧
        Session.Unfolds Sample.nobody (Session.undisturbed Sample.nobody)
          (((Session.clockwork Sample.nobody).step job session).2 ++ rest)
          ((Session.clockwork Sample.nobody).step job session).1 [] last ∧
        last.world.position.revealed = 5 ∧
        ∃ scene dialogue, last.completions = [(150, .typingComplete scene dialogue false)]) ∧
    ∃ sights answer after, Session.Performs Sample.nobody Sample.opened (.update 7) sights answer
      after ∧ after.timeline.now = 7 := by
  refine ⟨?_, ?_, ?_⟩
  · have follows : Typing.Follows (Typing.new 0 10) ([] ++ _ :: _) _ :=
      .cons (.start _ "abc") (.cons (@Typing.Turn.Made.update 9 25 _ _ rfl) .nil)
    obtain ⟨_, _, shown, _⟩ := types_in_time.1 follows rfl (by decide) (by decide)
    exact ⟨_, _, follows, shown⟩
  · obtain ⟨job, rest, session, reached, begins, interval, began, silent, middle, entered,
        later, moved, last, ended, now⟩ :
        ∃ job rest session,
          Session.takeUp? Sample.nobody Session.within 7 [.work (.request .start)]
              (Session.new Sample.serenade {} Rehearsal.willing 0 () :
                Session Rehearsal String Unit) =
            some (job :: rest, session) ∧
          session.begun? job = some "Ahoy!" ∧
          session.world.typewriter.interval = 30 ∧ session.timeline.now = 0 ∧
          session.completions = [] ∧
          ∃ middle,
            Session.takeUp? Sample.nobody (Session.undisturbed Sample.nobody) 1
              (((Session.clockwork Sample.nobody).step job session).2 ++ rest)
              ((Session.clockwork Sample.nobody).step job session).1 = some ([], middle) ∧
            ∃ later,
              Session.takeUp? Sample.nobody (Session.undisturbed Sample.nobody) 13
                [.work (.request (.update 100))] middle = some ([], later) ∧
              ∃ last,
                Session.takeUp? Sample.nobody (Session.undisturbed Sample.nobody) 11
                  [.work (.request (.update 200))] later = some ([], last) ∧
                last.timeline.now = 200 :=
      ⟨_, _, _, rfl, rfl, rfl, rfl, rfl, _, rfl, _, rfl, _, rfl, rfl⟩
    have unfolds := (Session.Unfolds.refl.asks .start).of_takeUp? reached
    obtain ⟨reaches, nested⟩ := types_in_time.2.2.1 unfolds
    have waits := (Session.Unfolds.refl.of_takeUp? entered).asks (.update 100)
    have alone := ((waits.of_takeUp? moved).asks (.update 200)).of_takeUp? ended
    obtain ⟨_, _, shown, _, told⟩ :=
      types_in_time.2.1 reaches begins nested (by rw [interval]; decide) alone
    simp only [began, interval, now, silent] at shown told
    exact ⟨job, rest, session, last, unfolds, begins, alone, shown, told (by decide)⟩
  · exact types_in_time.2.2.2 .nil Sample.opened_fresh Sample.nobody_quiet 7

end VisualNovel.Playback
