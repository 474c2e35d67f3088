import VisualNovel.Playback.Typewriter
import VisualNovel.Proofs.Clock.Orderly

/-!
# What a typewriter does

Each operation of a typewriter, case by case.
-/

set_option autoImplicit false

namespace VisualNovel.Playback

open VisualNovel.Clock

namespace Reveal

variable (reveal : Reveal)

@[simp] theorem step_text (count : Int) : (reveal.step count).text = reveal.text := by
  unfold step
  split <;> rfl

@[simp] theorem step_total (count : Int) : (reveal.step count).total = reveal.total := by
  simp [total]

theorem left_step_le :
    (reveal.step 1).total - (reveal.step 1).revealed ≤ reveal.total - reveal.revealed := by
  have one : (max (1 : Int) 1).toNat = 1 := rfl
  rw [step_total]
  unfold step
  split
  · exact Nat.le_refl _
  · rw [one]
    dsimp only
    omega

theorem step_of_not_complete (unfinished : (reveal.step 1).complete = false) :
    (reveal.step 1).revealed = reveal.revealed + 1 ∧ reveal.revealed + 1 < reveal.total := by
  have one : (max (1 : Int) 1).toNat = 1 := rfl
  unfold step at *
  split at unfinished
  · next complete => rw [complete] at unfinished; contradiction
  · next typing =>
      have left : ¬ reveal.total ≤ min reveal.total (reveal.revealed + 1) := by
        simpa [one] using unfinished
      simp only [typing, Bool.false_eq_true, if_false, one]
      omega

end Reveal

namespace Typewriter

variable {ρ : Type} (tick : Nat → ρ) (typewriter : Typewriter) (timeline : Timeline ρ)

theorem cancel_eq :
    typewriter.cancel timeline =
      ⟨{ typewriter with
          timer := none
          generation := typewriter.generation + 1
          reveal := { typewriter.reveal with complete := true } },
        timeline.cancel? typewriter.timer⟩ := by
  cases timer : typewriter.timer <;> simp [cancel, cancelTimer, Timeline.cancel?, timer]

theorem strike_last (done : (typewriter.reveal.step 1).complete = true) :
    typewriter.strike tick typewriter.generation timeline =
      ([.progress (typewriter.reveal.step 1).revealed, .complete false],
        ⟨{ typewriter with reveal := typewriter.reveal.step 1, timer := none }, timeline⟩) := by
  simp [strike, done]

theorem strike_next (unfinished : (typewriter.reveal.step 1).complete = false) :
    typewriter.strike tick typewriter.generation timeline =
      ([.progress (typewriter.reveal.step 1).revealed],
        ({ typewriter with reveal := typewriter.reveal.step 1, timer := none }).setTimer tick
          timeline) := by
  simp [strike, unfinished]

/-- An empty line, or one that takes no time, is complete at once. -/
theorem start_at_once {text : String} (atOnce : text.length = 0 ∨ typewriter.interval ≤ 0) :
    ∃ reveal, reveal.complete = true ∧
      typewriter.start tick text timeline =
        ([.complete false],
          ⟨{ typewriter with reveal, timer := none, generation := typewriter.generation + 1 },
            timeline.cancel? typewriter.timer⟩) := by
  unfold start
  rw [cancel_eq]
  dsimp only
  split
  · next complete => exact ⟨_, complete, rfl⟩
  · next typing =>
      have nonempty : text.length ≠ 0 := by
        simpa [Reveal.ofText, String.isEmpty_iff] using typing
      rcases atOnce with empty | instant
      · contradiction
      · rw [if_pos instant]
        exact ⟨_, rfl, rfl⟩

theorem start_later {text : String} (nonempty : text.length ≠ 0)
    (takesTime : ¬ typewriter.interval ≤ 0) :
    typewriter.start tick text timeline =
      ([], ({ typewriter with
        reveal := Reveal.ofText text
        timer := none
        generation := typewriter.generation + 1 }).setTimer tick
          (timeline.cancel? typewriter.timer)) := by
  have typing : (Reveal.ofText text).complete = false := by
    simpa [Reveal.ofText, String.isEmpty_iff] using nonempty
  unfold start
  rw [cancel_eq]
  simp [typing, takesTime]

theorem skip?_eq :
    typewriter.skip? timeline =
      if typewriter.reveal.complete then none
      else some (.complete true,
        ⟨{ typewriter with reveal := typewriter.reveal.all, timer := none },
          timeline.cancel? typewriter.timer⟩) := by
  unfold skip? isTyping cancelTimer
  cases complete : typewriter.reveal.complete <;>
    cases timer : typewriter.timer <;> simp [Timeline.cancel?, timer]

theorem setTimer_eq (isOpen : timeline.closed = false) :
    typewriter.setTimer tick timeline =
      ⟨{ typewriter with timer := some timeline.issued },
        (timeline.later typewriter.interval "typewriter" (tick typewriter.generation)).2⟩ := by
  simp [setTimer, Timeline.later_eq isOpen]

@[simp] theorem setTimer_now :
    (typewriter.setTimer tick timeline).timeline.now = timeline.now := by
  simp [setTimer]

@[simp] theorem start_now (text : String) :
    (typewriter.start tick text timeline).2.timeline.now = timeline.now := by
  unfold start
  rw [cancel_eq]
  dsimp only
  split
  · simp
  · split <;> simp

@[simp] theorem strike_now (generation : Nat) :
    (typewriter.strike tick generation timeline).2.timeline.now = timeline.now := by
  unfold strike
  split
  · dsimp only
    split <;> simp
  · rfl

end Typewriter

/-!
## Lines in time

A line is begun at a time and shows a character more whenever an interval has
passed. Each of its timers is set when the one before goes off, with the clock at the
time that one was due; so the times do not drift, and how much of the line shows
follows from the clock alone.
-/

variable {ρ : Type}

structure Line where
  text : String
  interval : Int
  generation : Nat
  began : Int

def Typewriter.line (typewriter : Typewriter) (text : String) (timeline : Timeline ρ) : Line where
  text := text
  interval := typewriter.interval
  generation := typewriter.generation + 1
  began := timeline.now

namespace Line

def due (line : Line) (count : Nat) : Int :=
  line.began + count * line.interval

def shown (line : Line) (time : Int) : Int :=
  min line.text.length ((time - line.began) / line.interval)

def typing (line : Line) (count number : Nat) : Typewriter where
  interval := line.interval
  reveal := ⟨line.text, count, false⟩
  generation := line.generation
  timer := some number

def typed (line : Line) : Typewriter where
  interval := line.interval
  reveal := ⟨line.text, line.text.length, true⟩
  generation := line.generation

def timer (line : Line) (tick : Nat → ρ) (count number : Nat) : Timer ρ :=
  ⟨line.due (count + 1), number, "typewriter", tick line.generation⟩

variable {line : Line} {count other : Nat} {time : Int}

theorem due_zero (line : Line) : line.due 0 = line.began := by
  simp [due]

theorem due_succ (line : Line) (count : Nat) :
    line.due (count + 1) = line.due count + line.interval := by
  simp only [due, Int.natCast_add, Int.add_mul]
  omega

theorem due_le_due (takesTime : 0 < line.interval) (fewer : count ≤ other) :
    line.due count ≤ line.due other := by
  have ordered : (count : Int) * line.interval ≤ other * line.interval :=
    Int.mul_le_mul_of_nonneg_right (by omega) (Int.le_of_lt takesTime)
  unfold due
  omega

theorem shown_eq (takesTime : 0 < line.interval) (within : count ≤ line.text.length)
    (since : line.due count ≤ time) (ahead : time < line.due (count + 1)) :
    line.shown time = count := by
  have elapsed : (time - line.began) / line.interval = count := by
    rw [due_succ] at ahead
    unfold due at since ahead
    apply Int.le_antisymm
    · apply Int.le_of_lt_add_one
      apply Int.ediv_lt_of_lt_mul takesTime
      rw [Int.add_mul]
      omega
    · apply Int.le_ediv_of_mul_le takesTime
      omega
  rw [shown, elapsed]
  omega

theorem shown_eq_length (takesTime : 0 < line.interval)
    (reached : line.due line.text.length ≤ time) : line.shown time = line.text.length := by
  have elapsed : (line.text.length : Int) ≤ (time - line.began) / line.interval := by
    apply Int.le_ediv_of_mul_le takesTime
    unfold due at reached
    omega
  exact Int.min_eq_left elapsed

end Line

namespace Typewriter

variable {tick : Nat → ρ} {typewriter : Typewriter} {timeline : Timeline ρ} {text : String}
  {line : Line} {count number : Nat}

/-- Setting the timer for the next character of a line. -/
theorem later_line (tick : Nat → ρ) (line : Line) (isOpen : timeline.closed = false)
    (takesTime : 0 < line.interval) (now : timeline.now = line.due count) :
    (timeline.later line.interval "typewriter" (tick line.generation)).2 =
      { timeline with
        issued := timeline.issued + 1
        pending := insertTimer (line.timer tick count timeline.issued) timeline.pending } := by
  have delay : max 0 line.interval = line.interval := by omega
  rw [Timeline.later_eq isOpen, delay, now, ← Line.due_succ]
  rfl

theorem strike_closed (tick : Nat → ρ) (typewriter : Typewriter) (timeline : Timeline ρ)
    (generation : Nat) :
    (typewriter.strike tick generation timeline).2.timeline.closed = timeline.closed := by
  unfold strike
  split
  · dsimp only
    split
    · rfl
    · simp [setTimer]
  · rfl

theorem start_generation (tick : Nat → ρ) (text : String) (typewriter : Typewriter)
    (timeline : Timeline ρ) :
    (typewriter.start tick text timeline).2.typewriter.generation =
      typewriter.generation + 1 := by
  unfold start
  rw [cancel_eq]
  dsimp only
  split
  · rfl
  · split <;> rfl

theorem start_line_at_once (typewriter : Typewriter) (timeline : Timeline ρ)
    (atOnce : text.length = 0 ∨ typewriter.interval ≤ 0) :
    typewriter.start tick text timeline =
      ([.complete false],
        ⟨(typewriter.line text timeline).typed, timeline.cancel? typewriter.timer⟩) := by
  unfold start
  rw [cancel_eq]
  dsimp only
  split
  · next complete =>
      have empty : text = "" := by simpa [Reveal.ofText, String.isEmpty_iff] using complete
      rw [empty]
      rfl
  · next typing =>
      have nonempty : text.length ≠ 0 := by
        simpa [Reveal.ofText, String.isEmpty_iff] using typing
      rw [if_pos (atOnce.resolve_left nonempty)]
      rfl

/-- A line that takes time waits for its first character. -/
theorem start_line (isOpen : timeline.closed = false) (nonempty : text.length ≠ 0)
    (takesTime : 0 < typewriter.interval) :
    typewriter.start tick text timeline =
      ([], ⟨(typewriter.line text timeline).typing 0 timeline.issued,
        { timeline.cancel? typewriter.timer with
          issued := timeline.issued + 1
          pending := insertTimer
            ((typewriter.line text timeline).timer tick 0 timeline.issued)
            (timeline.cancel? typewriter.timer).pending }⟩) := by
  have begun : Reveal.ofText text = ⟨text, 0, false⟩ := by
    simpa [Reveal.ofText, String.isEmpty_iff] using nonempty
  have now : (timeline.cancel? typewriter.timer).now =
      (typewriter.line text timeline).due 0 := by
    simp [Line.due_zero, line]
  have sets := later_line tick (typewriter.line text timeline) (by simpa using isOpen) takesTime now
  rw [start_later tick typewriter timeline nonempty (Int.not_le.mpr takesTime),
    setTimer_eq _ _ _ (by simpa using isOpen), begun]
  rw [Timeline.cancel?_issued] at sets ⊢
  exact congrArg
    (fun after => ([], (⟨(typewriter.line text timeline).typing 0 _, after⟩ : Typed ρ))) sets

theorem strike_line_last (last : count + 1 = line.text.length) :
    (line.typing count number).strike tick line.generation timeline =
      ([.progress (count + 1), .complete false], ⟨line.typed, timeline⟩) := by
  simp [strike, Line.typing, Line.typed, Reveal.step, Reveal.total, last]

theorem strike_line_next (more : count + 1 < line.text.length) (isOpen : timeline.closed = false)
    (takesTime : 0 < line.interval) (now : timeline.now = line.due (count + 1)) :
    (line.typing count number).strike tick line.generation timeline =
      ([.progress (count + 1)], ⟨line.typing (count + 1) timeline.issued,
        { timeline with
          issued := timeline.issued + 1
          pending := insertTimer (line.timer tick (count + 1) timeline.issued)
            timeline.pending }⟩) := by
  have shows : min line.text.length (count + 1) = count + 1 := by omega
  have unfinished : ¬ line.text.length ≤ count + 1 := by omega
  rw [← later_line tick line isOpen takesTime now]
  simp [strike, Line.typing, Reveal.step, Reveal.total, shows, unfinished,
    setTimer_eq _ _ _ isOpen]

end Typewriter

end VisualNovel.Playback
