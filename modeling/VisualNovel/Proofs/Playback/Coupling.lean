import VisualNovel.Proofs.Playback.Standing

/-!
# The coupling of position, typewriter, transition and timers

Between any two requests the position of a started session is in the novel, what it
says of the line agrees with the typewriter, what it says of a transition agrees
with the phase that is waited for, and no timer is pending that is not accounted
for by one of the two.
-/

set_option autoImplicit false

namespace VisualNovel.Playback

open VisualNovel.Agenda VisualNovel.Clock VisualNovel.Sound VisualNovel.Novel

variable {β κ η : Type}

def isTypewriterTimer (timer : Timer (Alarm κ)) : Bool :=
  timer.label == "typewriter"

def isTransitionTimer (timer : Timer (Alarm κ)) : Bool :=
  timer.label == "transition.commit" || timer.label == "transition.clear"

private theorem filter_eq_toList {timers : List (Timer (Alarm κ))}
    {kept others : Option (Timer (Alarm κ))}
    {kind : Timer (Alarm κ) → Bool} (pending : timers.Perm (kept.toList ++ others.toList))
    (keep : ∀ timer, kept = some timer → kind timer = true)
    (drop : ∀ timer, others = some timer → kind timer = false) :
    timers.filter kind = kept.toList := by
  have filtered := pending.filter kind
  have all : kept.toList.filter kind = kept.toList :=
    List.filter_eq_self.mpr fun timer member => keep timer (Option.mem_toList.mp member)
  have nothing : others.toList.filter kind = [] := by
    refine List.filter_eq_nil_iff.mpr fun timer member => ?_
    rw [drop timer (Option.mem_toList.mp member)]
    exact Bool.false_ne_true
  rw [List.filter_append, all, nothing, List.append_nil] at filtered
  cases kept with
  | none => exact filtered.eq_nil
  | some timer => exact List.perm_singleton.mp filtered

namespace Session

/-- The position, the typewriter, the transition and the timers of a session agree. -/
structure Coupled (session : Session β κ η) : Prop where
  placed : ∃ scene, session.world.scene? = some scene ∧
    (session.world.position.dialogue = 0 ∨
      0 < session.world.position.dialogue ∧
        session.world.position.dialogue < scene.dialogues.length)
  length : session.world.position.textLength =
    (session.world.dialogue?.map fun dialogue => (dialogue.text.length : Int)).getD 0
  within : 0 ≤ session.world.position.revealed ∧
    session.world.position.revealed ≤ session.world.position.textLength
  typing : session.world.position.isTyping = session.world.typewriter.isTyping
  typed : session.world.position.isTyping = true →
    ∃ dialogue, session.world.dialogue? = some dialogue ∧
      session.world.typewriter.reveal.text = dialogue.text ∧
      (session.world.typewriter.reveal.revealed : Int) = session.world.position.revealed
  /-- One timer for the next character is pending while a line is typed, and none otherwise. -/
  strikes : ∃ strike : Option (Timer (Alarm κ)),
    session.timeline.pending.filter isTypewriterTimer = strike.toList ∧
      strike.isSome = session.world.position.isTyping ∧
      ∀ timer, strike = some timer →
        timer.payload = .strike session.world.typewriter.generation
  styled : session.world.position.transitioning = session.world.position.style.isSome
  /-- One timer for the next phase is pending while a transition is under way, and none
  otherwise. -/
  phases : ∃ phase : Option (Timer (Alarm κ)),
    session.timeline.pending.filter isTransitionTimer = phase.toList ∧
      phase.isSome = session.world.position.transitioning ∧
      session.world.transition = phase.map (·.number) ∧
      ∀ timer, phase = some timer →
        (∃ target timing, timer.payload = .commit session.world.generation target timing) ∨
          timer.payload = .clear session.world.generation
  accounted : ∀ timer ∈ session.timeline.pending,
    isTypewriterTimer timer = true ∨ isTransitionTimer timer = true
  finished : session.world.position.finished = true →
    session.world.position.transitioning = false ∧ session.timeline.pending = []

end Session

namespace Player

variable {player : Player κ} {strike phase : Option (Timer (Alarm κ))}

private theorem Waits.typewriter_label (waits : player.Waits strike phase) :
    ∀ timer, strike = some timer →
      isTypewriterTimer timer = true ∧ isTransitionTimer timer = false := by
  intro timer which
  have label := (waits.strikes timer which).1
  unfold isTypewriterTimer isTransitionTimer
  rw [label]
  exact ⟨rfl, rfl⟩

theorem Phase.transition_label {timer : Timer (Alarm κ)} (phased : player.Phase timer) :
    isTransitionTimer timer = true ∧ isTypewriterTimer timer = false := by
  unfold isTypewriterTimer isTransitionTimer
  cases phased with
  | commit label _ _ =>
      rw [label]
      exact ⟨rfl, rfl⟩
  | clear label _ =>
      rw [label]
      exact ⟨rfl, rfl⟩

/-- No more than the whole line is revealed. -/
theorem Lined.within (lined : player.Lined strike phase) :
    0 ≤ player.position.revealed ∧ player.position.revealed ≤ player.position.textLength := by
  have nonnegative : 0 ≤ player.position.textLength := by
    rw [lined.length]
    unfold lineLength
    cases player.dialogue? with
    | none => exact le_refl 0
    | some dialogue => exact Int.natCast_nonneg _
  cases same : strike with
  | none =>
      have idle := lined.reveals.idle same
      omega
  | some timer =>
      obtain ⟨dialogue, found, text, revealed, left⟩ := lined.reveals.busy (by simp [same])
      have length : player.position.textLength = player.typewriter.reveal.total := by
        rw [lined.length]
        simp [lineLength, found, Reveal.total, text]
      omega

end Player

/-- A session that shows a coherent player is coupled. -/
theorem Player.Coherent.session_coupled {session : Session β κ η} {seen : List Sight}
    {strike phase : Option (Timer (Alarm κ))}
    (coherent : (session.player seen).Coherent strike phase) : session.Coupled := by
  have pending := coherent.lined.waits.pending
  have typing : session.world.position.isTyping = strike.isSome := coherent.isTyping_eq
  have transitioning : session.world.position.transitioning = phase.isSome :=
    coherent.crossing.transitioning
  have typewriters := coherent.lined.waits.typewriter_label
  have transitions : ∀ timer, phase = some timer →
      isTransitionTimer timer = true ∧ isTypewriterTimer timer = false :=
    fun timer which => (coherent.crossing.phased timer which).transition_label
  refine ⟨coherent.placed, coherent.lined.length, coherent.lined.within, ?_, ?_, ?_, ?_, ?_, ?_, ?_⟩
  · have complete : session.world.typewriter.reveal.complete = strike.isNone :=
      coherent.lined.reveals.complete
    rw [typing, Typewriter.isTyping, complete]
    cases strike <;> rfl
  · intro busy
    rw [typing] at busy
    obtain ⟨dialogue, found, text, revealed, _⟩ :=
      coherent.lined.reveals.busy (Option.isSome_iff_ne_none.mp busy)
    exact ⟨dialogue, found, text, revealed.symm⟩
  · exact ⟨strike, filter_eq_toList pending (fun timer which => (typewriters timer which).1)
      fun timer which => (transitions timer which).2, typing.symm,
      fun timer which => (coherent.lined.waits.strikes timer which).2⟩
  · rw [transitioning]
    exact coherent.crossing.styled.symm
  · refine ⟨phase, filter_eq_toList (pending.trans List.perm_append_comm)
      (fun timer which => (transitions timer which).1)
      fun timer which => (typewriters timer which).2, transitioning.symm,
      coherent.lined.waits.phasing, ?_⟩
    intro timer which
    cases coherent.crossing.phased timer which with
    | commit _ payload _ => exact .inl ⟨_, _, payload⟩
    | clear _ payload => exact .inr payload
  · intro timer member
    rcases List.mem_append.mp (pending.mem_iff.mp member) with member | member
    · exact .inl (typewriters timer (Option.mem_toList.mp member)).1
    · exact .inr (transitions timer (Option.mem_toList.mp member)).1
  · intro finished
    obtain ⟨rfl, rfl, _⟩ := coherent.closed finished
    exact ⟨transitioning, pending.eq_nil⟩

namespace Session

variable [DecidableEq κ] [Device β] {callbacks : Callbacks κ η} {first last : Session β κ η}
  {turns : List (Turn β κ η)}

/-- After every request of a history the session is coupled once it is started, and every
further request is performed. -/
theorem History.coupled (history : History callbacks first turns last)
    (quiet : callbacks.Quiet) (fresh : first.Fresh) :
    (last.world.started = true → last.Coupled) ∧
      ∀ made : Request κ, made.Plays ∨ made.Quiet →
        ∃ sights answer after, Performs callbacks last made sights answer after := by
  have stands := history.stands quiet fresh.stands
  constructor
  · intro started
    obtain ⟨_, _, coherent, _⟩ := stands.coherent started
    exact coherent.session_coupled
  · intro made ordinary
    obtain ⟨sights, answer, after, performs, _⟩ := stands.performs quiet ordinary
    exact ⟨sights, answer, after, performs⟩

theorem coupled_while_typing : ∃ turns last,
    History Sample.nobody Sample.opened turns last ∧ last.world.position.isTyping = true ∧
      last.Coupled ∧ ∃ sights answer after,
        Performs Sample.nobody last .advance sights answer after := by
  obtain ⟨turns, last, ran, started, typing⟩ : ∃ turns last,
      run? Sample.nobody 100 Sample.opened [.start, .update 45, .frame] = some (turns, last) ∧
        last.world.started = true ∧ last.world.position.isTyping = true :=
    ⟨_, _, rfl, rfl, rfl⟩
  have history := history_of_run? (by simp [Request.Plays, Request.Quiet]) ran
  obtain ⟨coupled, performed⟩ := history.coupled Sample.nobody_quiet Sample.opened_fresh
  exact ⟨turns, last, history, typing, coupled started, performed .advance (.inl trivial)⟩

end Session

end VisualNovel.Playback
