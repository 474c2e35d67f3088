import VisualNovel.Proofs.Console.Numbers
import VisualNovel.Proofs.Console.Picking
import VisualNovel.Proofs.Playback.Sealing

/-!
# Playing on any input

Whatever is put in, every operation of a playthrough comes to its end, and the
session is closed when the playthrough is over. One kind of input breaks it off: at
a menu, a word of digits that make no number. At a menu nothing is played but the
entry whose number is put in.
-/

set_option autoImplicit false

namespace VisualNovel.Console

open VisualNovel.Agenda VisualNovel.Clock VisualNovel.Novel VisualNovel.Numeric
open VisualNovel.Playback VisualNovel.Playback.Session VisualNovel.Text

namespace Playthrough

def Settles (made : Request Cue) (playthrough : Playthrough) : Prop :=
  ∃ answer after, Session.perform? callbacks budget made playthrough = some (answer, after)

/-- The turns that lines of input are read at, up to the beginning of the turn that comes next. -/
inductive Turns : Playthrough → List String → Playthrough → Prop where
  | nil {playthrough : Playthrough} : Turns playthrough [] playthrough
  | cons {playthrough next last : Playthrough} {printed : List Printed} {input : String}
      {inputs : List String} : isLast (look playthrough).1 = false →
      obey (look playthrough).1 input (look playthrough).2.2 = .goesOn printed next →
      Turns next inputs last → Turns playthrough (input :: inputs) last

variable {novel : Novel} {preferences : Preferences} {playthrough next last : Playthrough}
  {made : Request Cue} {input : String} {inputs : List String} {printed : List Printed}
  {player : Player Cue} {answer : Answer}

theorem Settles.perform (settles : Settles made playthrough) :
    Session.perform? callbacks budget made playthrough = some (perform made playthrough) := by
  obtain ⟨answer, after, performed⟩ := settles
  rw [Playthrough.perform, performed]
  rfl

theorem perform_of_steps {count : Nat}
    (steps : Steps (clockwork callbacks).step count [.work (.request made)] playthrough [] next)
    (enough : count ≤ budget) :
    Settles made playthrough ∧ perform made playthrough = (next.world.answer, next) := by
  have performed : Session.perform? callbacks budget made playthrough =
      some (next.world.answer, next) := by
    unfold perform? Clockwork.run
    rw [run_mono enough steps.run]
    rfl
  refine ⟨⟨_, _, performed⟩, ?_⟩
  rw [perform, performed]
  rfl

theorem settles_of_finishes {count : Nat} {holds : Audience Sound.Rehearsal Cue Transcript → Prop}
    (finishes : Finishes callbacks holds count [.work (.request made)] playthrough)
    (enough : count ≤ budget) : Settles made playthrough := by
  obtain ⟨_, steps, _⟩ := finishes
  exact (perform_of_steps steps enough).1

/-! ## What a playthrough performs at any time -/

theorem settles_advance (listening : playthrough.world.bus.listeners = directory) :
    Settles .advance playthrough :=
  settles_of_finishes (terse.request (by decide) rfl
    (modest_whenOpen (modest_advance playthrough) (by decide)) listening) (by decide)

private theorem settles_choose (listening : playthrough.world.bus.listeners = directory)
    (choiceId : String) : Settles (.choose choiceId) playthrough :=
  settles_of_finishes (terse.request (by decide) rfl
    (modest_whenOpen (modest_choose playthrough choiceId) (by decide)) listening) (by decide)

private theorem settles_start (listening : playthrough.world.bus.listeners = directory) :
    Settles .start playthrough :=
  settles_of_finishes (terse.request (by decide) rfl
    (modest_whenOpen (modest_start playthrough) (by decide)) listening) (by decide)

private theorem settles_toggleMute (playthrough : Playthrough) : Settles .toggleMute playthrough :=
  ⟨_, _, rfl⟩

/-- Nobody listens for the closing of a session. -/
theorem heard_close (listening : playthrough.world.bus.listeners = directory)
    (isOpen : playthrough.world.closed = false) :
    (Session.close playthrough).1.world.bus.heard "session.close" = [] := by
  have stopped (session : Playthrough) : (stopPlayer session).2.world.bus = session.world.bus := by
    unfold stopPlayer
    split <;> rfl
  have silenced (session : Playthrough) (same : session.world.bus.listeners = directory) :
      (closeSound session).world.bus.heard "session.close" = [] := by
    unfold closeSound withStage
    dsimp only
    split
    · rw [Event.Bus.heard, same]
      rfl
    · simp only [Stage.withSound, Stage.takeReports]
      generalize session.world.bus = bus at same ⊢
      obtain ⟨listeners, counts⟩ := bus
      obtain rfl : listeners = directory := same
      rfl
  unfold Session.close
  rw [if_neg (by simp [isOpen])]
  refine silenced _ ?_
  dsimp only
  rw [stopped]
  exact listening

/-- Closing comes to its end within the budget. -/
private theorem close_performs (listening : playthrough.world.bus.listeners = directory)
    (isOpen : playthrough.world.closed = false) :
    Settles .close playthrough ∧ (perform .close playthrough).2.world.closed = true := by
  have begun := step_close callbacks isOpen
  have told : (clockwork callbacks).step (.work (.emit .closed)) (Session.close playthrough).1 =
      ((Session.emit (Session.close playthrough).1 .closed).1, []) := by
    show Session.jobs (Session.emit (Session.close playthrough).1 .closed) = _
    unfold Session.emit Session.jobs
    have unheard := heard_close listening isOpen
    have name : Event.name .closed = "session.close" := rfl
    rw [name, unheard]
    rfl
  have steps : Steps (clockwork callbacks).step 4 [.work (.request .close)] playthrough []
      (reply (withStage (Session.emit (Session.close playthrough).1 .closed).1 fun stage =>
        { stage with bus := stage.bus.clear }) .nothing) := by
    refine .cons ?_
    rw [begun]
    refine .cons ?_
    rw [told]
    exact .cons (.cons .refl)
  obtain ⟨settles, performed⟩ := perform_of_steps steps (by decide)
  refine ⟨settles, ?_⟩
  have closed : (Session.close playthrough).1.world.closed = true := closed_close playthrough
  rw [performed]
  exact closed

/-! ## Between turns -/

inductive Poised (playthrough : Playthrough) : Prop where
  | intro {player : Player Cue} {phase : Option (Timer (Alarm Cue))} :
      Portrays playthrough player → player.Coherent none phase → player.Prompt →
      player.Rested phase → Poised playthrough

inductive Still (playthrough : Playthrough) : Prop where
  | intro {player : Player Cue} : Portrays playthrough player → player.Coherent none none →
      player.Prompt → Still playthrough

theorem Still.poised (still : Still playthrough) : Poised playthrough := by
  obtain ⟨portrays, coherent, prompt⟩ := still
  exact ⟨portrays, coherent, prompt, fun _ impossible => by contradiction⟩

private theorem poised_start (nonempty : novel.scenes ≠ []) (preferences : Preferences) :
    Poised (start novel preferences) := by
  obtain ⟨portrays, bound, _⟩ := nearing_start nonempty preferences
  exact ⟨portrays, bound.coherent, bound.prompt, bound.rested⟩

theorem Poised.settles_flush (poised : Poised playthrough) :
    Settles (.flush flushLimit) playthrough := by
  obtain ⟨portrays, coherent, prompt, rested⟩ := poised
  exact settles_of_finishes (terse.await (by decide) callbacks_quiet portrays.shows coherent prompt
    rested portrays.listening flushLimit) (by decide)

theorem Poised.look (poised : Poised playthrough) : Still (look playthrough).2.2 := by
  obtain ⟨portrays, coherent, prompt, rested⟩ := poised
  obtain ⟨_, portraysThen, coherentThen, promptThen, _⟩ := portrays.await coherent prompt rested
  exact ⟨portraysThen.withNotes _, coherentThen, promptThen⟩

theorem Portrays.respond (portrays : Portrays playthrough player) (resting : player.Resting)
    (plays : made.Plays) (settles : Settles made playthrough) :
    Portrays (Playthrough.perform made playthrough).2 (player.respond made).2 := by
  obtain ⟨⟨isOpen, playing, seen, rfl⟩, listening⟩ := portrays
  have stands : Stands playthrough seen := ⟨isOpen, playing, resting⟩
  have performs : Performs callbacks playthrough made _ (Playthrough.perform made playthrough).1
      (Playthrough.perform made playthrough).2 := ⟨_, settles.perform, rfl⟩
  obtain ⟨same, standsAfter⟩ := stands.turn callbacks_quiet (.inl plays) performs
  obtain ⟨heard, _⟩ :=
    stands.audience callbacks_quiet hears_callbacks plays performs ⟨listening, rfl⟩
  exact ⟨⟨standsAfter.isOpen, standsAfter.playing, _, same⟩, heard⟩

theorem Still.respond (still : Still playthrough) (plays : made.Plays)
    (settles : Settles made playthrough)
    (atOnce : ∀ player : Player Cue, player.Prompt → player.position.isTyping = false →
      (player.respond made).2.Prompt) : Poised (Playthrough.perform made playthrough).2 := by
  obtain @⟨player, portrays, coherent, prompt⟩ := still
  have rested : player.Rested none := fun _ impossible => by contradiction
  have promptThen := atOnce player prompt coherent.isTyping_eq
  obtain ⟨strike, phase, after, restedThen, _⟩ := coherent.comes rested made
  obtain rfl := after.strike_eq_none promptThen
  exact ⟨portrays.respond (.coherent coherent rested) plays settles, after, promptThen, restedThen⟩

theorem Still.listening (still : Still playthrough) :
    playthrough.world.bus.listeners = directory := by
  obtain ⟨portrays, _⟩ := still
  exact portrays.listening

theorem Still.advance (still : Still playthrough) :
    Poised (Playthrough.perform .advance playthrough).2 :=
  still.respond trivial (settles_advance still.listening) fun _ prompt revealed =>
    prompt.advance revealed

theorem Still.choose (still : Still playthrough) (choiceId : String) :
    Poised (Playthrough.perform (.choose choiceId) playthrough).2 :=
  still.respond trivial (settles_choose still.listening choiceId) fun _ prompt _ =>
    prompt.choose choiceId

theorem Still.toggleMute (still : Still playthrough) :
    Still (Playthrough.perform .toggleMute playthrough).2 := by
  obtain ⟨⟨⟨isOpen, playing, seen, rfl⟩, listening⟩, coherent, prompt⟩ := still
  have quiet : Request.Quiet (.toggleMute : Request Cue) := trivial
  obtain ⟨same, -⟩ := begin_quiet playthrough quiet
  have toggled : (Playthrough.perform .toggleMute playthrough).2 =
      (begin playthrough .toggleMute).1 := rfl
  have bus : (begin playthrough .toggleMute).1.world.bus = playthrough.world.bus := by
    simp only [begin]
    split <;> rfl
  rw [toggled]
  refine ⟨⟨⟨same.closed.trans isOpen, same.stopped.trans playing, seen, same.player_eq seen⟩, ?_⟩,
    coherent, prompt⟩
  rw [bus]
  exact listening

/-! ## Lines of input -/

inductive Obeys (frame : Frame) (input : String) (playthrough : Playthrough) :
    Playthrough → Prop where
  | unavailable : Obeys frame input playthrough playthrough
  | chosen {number : Int} {choice : Choice} : isDigits (wordForm input) = true →
      readInteger (wordForm input) = .ok number →
      itemAt? frame.choices (number - 1) = some choice →
      Obeys frame input playthrough (perform (.choose choice.id) playthrough).2
  | muted : Obeys frame input playthrough (perform .toggleMute playthrough).2
  | advanced : Obeys frame input playthrough (perform .advance playthrough).2

private theorem obeys_of_goesOn {frame : Frame}
    (goes : obey frame input playthrough = .goesOn printed next) :
    Obeys frame input playthrough next := by
  have toggled : Obeys frame input playthrough (perform .toggleMute playthrough).2 := .muted
  unfold obey at goes
  generalize perform .toggleMute playthrough = outcome at goes toggled
  dsimp only at goes
  split at goes
  · cases goes
  split at goes
  · next digits =>
      rw [Bool.and_eq_true] at digits
      split at goes
      · next number read =>
          unfold pick at goes
          split at goes
          · cases goes
            exact .unavailable
          · next choice listed =>
              have follows : Obeys frame input playthrough
                  (perform (.choose choice.id) playthrough).2 := .chosen digits.1 read listed
              generalize perform (.choose choice.id) playthrough = outcome at goes follows
              split at goes <;> (cases goes; exact follows)
      · cases goes
  split at goes
  · split at goes <;> (cases goes; exact toggled)
  · cases goes
    exact .advanced

theorem Still.obeys (still : Still playthrough) {frame : Frame}
    (obeys : Obeys frame input playthrough next) : Poised next := by
  cases obeys with
  | unavailable => exact still.poised
  | chosen => exact still.choose _
  | muted => exact still.toggleMute.poised
  | advanced => exact still.advance

/-- At a menu a playthrough does not go on by itself. -/
theorem Still.advance_menu (still : Still playthrough)
    (shown : playthrough.world.frame.showChoices = true) :
    (perform .advance playthrough).2 = playthrough.reply (.flag false) := by
  obtain ⟨dialogue, line, choices, unfinished, quiet⟩ := Stage.exists_line shown
  obtain ⟨⟨⟨isOpen, playing, seen, rfl⟩, listening⟩, coherent, prompt⟩ := still
  have revealed : playthrough.world.position.isTyping = false := coherent.isTyping_eq
  have begun : whenOpen playthrough (Session.advance playthrough) = refuse playthrough := by
    unfold whenOpen Session.advance
    have menu : playthrough.world.dialogue?.any Dialogue.hasChoices = true := by
      have listed := shown
      unfold Stage.frame at listed
      rw [showChoices_compose, Bool.and_eq_true] at listed
      obtain ⟨found, there, entries⟩ := (Option.any_eq_true _ _).mp listed.2
      exact (Option.any_eq_true _ _).mpr ⟨found, there, (Bool.and_eq_true_iff.mp entries).1⟩
    simp only [isOpen, unfinished, quiet, revealed, menu, if_true, Bool.false_eq_true, if_false,
      Bool.or_false]
    split <;> rfl
  have stepped : (clockwork callbacks).step (.work (.request .advance)) playthrough =
      Session.jobs (whenOpen playthrough (Session.advance playthrough)) := rfl
  have steps : Steps (clockwork callbacks).step 2 [.work (.request .advance)] playthrough []
      (playthrough.reply (.flag false)) := by
    refine .cons ?_
    rw [stepped, begun]
    exact .cons .refl
  rw [(perform_of_steps steps (by decide)).2]

/-- At a menu nothing is played but the entry whose number was put in. -/
theorem Still.heeds (still : Still playthrough)
    (shown : playthrough.world.frame.showChoices = true)
    (obeys : Obeys playthrough.world.frame input playthrough next) :
    (∃ (index : Nat) (choice : Choice), playthrough.world.frame.choices[index]? = some choice ∧
        isDigits (strip input) = true ∧ readInteger (strip input) = .ok ((index : Int) + 1)) ∨
      (next.world.position = playthrough.world.position ∧
        next.world.chronicle = playthrough.world.chronicle) := by
  cases obeys with
  | unavailable => exact .inr ⟨rfl, rfl⟩
  | @chosen number choice digits read listed =>
      have same := wordForm_of_isDigits (.inr digits)
      rw [same] at digits read
      have found := getElem?_of_itemAt? listed
      have positive : 0 ≤ number - 1 := by
        by_contra negative
        rw [itemAt?, if_neg negative] at listed
        cases listed
      refine .inl ⟨(number - 1).toNat, choice, found, digits, ?_⟩
      rw [read, Int.toNat_of_nonneg positive, Int.sub_add_cancel]
  | muted =>
      have toggled : (perform .toggleMute playthrough).2 = (begin playthrough .toggleMute).1 := rfl
      rw [toggled]
      simp only [begin]
      split <;> exact .inr ⟨rfl, rfl⟩
  | advanced =>
      rw [still.advance_menu shown]
      exact .inr ⟨rfl, rfl⟩

/-! ## Turns -/

/-- A turn at which whatever is performed comes to its end, and at a menu nothing is played but the
entry whose number is put in. -/
structure Steady (playthrough : Playthrough) : Prop where
  waits : Settles (.flush flushLimit) playthrough
  isOpen : (look playthrough).2.2.world.closed = false
  advances : Settles .advance (look playthrough).2.2
  chooses (choiceId : String) : Settles (.choose choiceId) (look playthrough).2.2
  mutes : Settles .toggleMute (look playthrough).2.2
  closes : Settles .close (look playthrough).2.2 ∧
    (perform .close (look playthrough).2.2).2.world.closed = true
  heeds : (look playthrough).1.showChoices = true → ∀ input printed next,
    obey (look playthrough).1 input (look playthrough).2.2 = .goesOn printed next →
      (∃ (index : Nat) (choice : Choice), (look playthrough).1.choices[index]? = some choice ∧
        isDigits (strip input) = true ∧ readInteger (strip input) = .ok ((index : Int) + 1)) ∨
      (next.world.position = (look playthrough).2.2.world.position ∧
        next.world.chronicle = (look playthrough).2.2.world.chronicle)

/-- A playthrough of a novel without scenes has nothing to wait for. -/
theorem Attended.settles_flush (attended : Attended novel playthrough)
    (empty : novel.scenes = []) : Settles (.flush flushLimit) playthrough := by
  obtain ⟨seen, stands⟩ := attended.stands
  cases stands.resting with
  | unstarted unstarted =>
      have idle : playthrough.timeline.nextDue? = none := unstarted.nextDue
      have nothing : Finishes callbacks (fun _ => True) 3 [.work (.request (.flush flushLimit))]
          playthrough :=
        .cons rfl (.cons (Clockwork.step_flush_idle idle) (.last rfl trivial))
      exact settles_of_finishes nothing (by decide)
  | coherent coherent _ =>
      obtain ⟨scene, found, _⟩ := coherent.placed
      have listed : scene ∈ novel.scenes :=
        attended.known ▸ List.mem_of_getElem? (getElem?_of_itemAt? found)
      rw [empty] at listed
      cases listed

private theorem exists_scene_of_shown (shown : playthrough.world.frame.showChoices = true) :
    ∃ scene, playthrough.world.scene? = some scene ∧ scene ∈ playthrough.world.novel.scenes := by
  obtain ⟨_, line, _⟩ := Stage.exists_line shown
  obtain ⟨scene, here, _⟩ := exists_scene_of_dialogueAt? line
  exact ⟨scene, here, List.mem_of_getElem? (getElem?_of_itemAt? here)⟩

private theorem isLast_of_shown (shown : playthrough.world.frame.showChoices = true) :
    isLast playthrough.world.frame = false := by
  obtain ⟨_, line, _, unfinished, _⟩ := Stage.exists_line shown
  obtain ⟨scene, here, _⟩ := exists_scene_of_shown shown
  have status : playthrough.world.frame.status = .ready := by
    have found : playthrough.world.position.dialogue? playthrough.world.novel = some _ := line
    rw [Stage.frame, status_compose here unfinished, found]
    rfl
  rw [isLast, status]
  rfl

theorem Turns.comes (turns : Turns playthrough inputs last)
    (comes : Comes novel preferences playthrough) : Comes novel preferences last := by
  induction turns with
  | nil => exact comes
  | cons _ goes _ hypothesis => exact hypothesis (.along _ comes goes)

theorem Turns.poised (turns : Turns playthrough inputs last) (poised : Poised playthrough) :
    Poised last := by
  induction turns with
  | nil => exact poised
  | cons _ goes _ hypothesis => exact hypothesis (poised.look.obeys (obeys_of_goesOn goes))

/-- At every turn whatever is performed comes to its end. -/
theorem Turns.steady (turns : Turns (start novel preferences) inputs playthrough) :
    Steady playthrough := by
  have attended : Attended novel (look playthrough).2.2 := (turns.comes .start).attended.look
  obtain ⟨_, isOpen, _⟩ := attended.stands
  have frame : (look playthrough).1 = (look playthrough).2.2.world.frame := rfl
  have waits : Settles (.flush flushLimit) playthrough ∧
      ((look playthrough).1.showChoices = true → Still (look playthrough).2.2) := by
    rw [frame]
    by_cases empty : novel.scenes = []
    · refine ⟨(turns.comes .start).attended.settles_flush empty, fun shown => ?_⟩
      obtain ⟨scene, _, listed⟩ := exists_scene_of_shown shown
      rw [attended.known, empty] at listed
      cases listed
    · have poised := turns.poised (poised_start empty preferences)
      exact ⟨poised.settles_flush, fun _ => poised.look⟩
  refine ⟨waits.1, isOpen, settles_advance attended.listening, settles_choose attended.listening,
    settles_toggleMute _, close_performs attended.listening isOpen, ?_⟩
  intro shown input printed next goes
  rw [frame] at shown goes ⊢
  exact (waits.2 shown).heeds shown (obeys_of_goesOn goes)

/-- A line of input breaks a playthrough off: at a menu it is a word of digits that make no
number. -/
def Baffles (playthrough : Playthrough) (input : String) (error : Breakdown) : Prop :=
  (look playthrough).1.showChoices = true ∧ isDigits (strip input) = true ∧
    ¬Countable (strip input) ∧
    ∃ reason, readInteger (strip input) = .error reason ∧ error = .badNumber (strip input) reason

private theorem pick_ne_breaks {frame : Frame} {number : Int} {error : Breakdown} :
    pick frame number playthrough ≠ .breaks error := by
  unfold pick
  split
  · exact Turn.noConfusion
  · next choice _ =>
      generalize perform (.choose choice.id) playthrough = outcome
      split <;> exact Turn.noConfusion

/-- A line of input breaks a playthrough off only at a menu, as digits that make no number. -/
private theorem obey_breaks_iff {error : Breakdown} :
    obey (look playthrough).1 input (look playthrough).2.2 = .breaks error ↔
      Baffles playthrough input error := by
  unfold obey
  generalize perform .toggleMute (look playthrough).2.2 = outcome
  dsimp only
  constructor
  · intro breaks
    split at breaks
    · cases breaks
    split at breaks
    · next digits =>
        obtain ⟨digits, shown⟩ := Bool.and_eq_true_iff.mp digits
        have same := wordForm_of_isDigits (.inr digits)
        rw [same] at digits breaks
        rcases readInteger_of_isDigits digits with ⟨_, number, read⟩ | ⟨uncountable, reason, read⟩
        · rw [read] at breaks
          exact absurd breaks pick_ne_breaks
        · rw [read] at breaks
          cases breaks
          exact ⟨shown, digits, uncountable, reason, read, rfl⟩
    split at breaks
    · split at breaks <;> cases breaks
    · cases breaks
  · rintro ⟨shown, digits, -, reason, read, rfl⟩
    have noQuit : strip input ≠ "q" := by
      intro quit
      rw [quit] at digits
      exact absurd digits (by decide)
    rw [wordForm_of_isDigits (.inl digits), if_neg noQuit, digits, shown, read,
      if_pos (Bool.and_self true)]

/-! ## Reading all lines of input -/

theorem playAlong_eq (turns : Option Nat) (playthrough : Playthrough) (inputs : List String) :
    playAlong turns playthrough inputs =
      if isLast (look playthrough).1 || turns == some 0 then
        finish (look playthrough).2.1 none (look playthrough).2.2
      else
        match inputs with
        | [] => finish ((look playthrough).2.1 ++ [.prompt]) none (look playthrough).2.2
        | input :: inputs =>
            conclude ((look playthrough).2.1 ++ [.prompt]) (look playthrough).2.2
              (fun next => playAlong (turns.map (· - 1)) next inputs)
              (obey (look playthrough).1 input (look playthrough).2.2) := by
  cases inputs <;> rfl

private theorem playAlong_nil (turns : Option Nat) (playthrough : Playthrough) :
    ∃ printed, playAlong turns playthrough [] = finish printed none (look playthrough).2.2 := by
  rw [playAlong_eq]
  split <;> exact ⟨_, rfl⟩

private theorem playAlong_of_over {turns : Option Nat}
    (done : isLast (look playthrough).1 = true ∨ turns = some 0) :
    playAlong turns playthrough inputs =
      finish (look playthrough).2.1 none (look playthrough).2.2 := by
  rw [playAlong_eq, if_pos]
  exact (Bool.or_eq_true ..).mpr (done.imp_right fun none => by rw [none]; rfl)

private theorem playAlong_cons {turns : Option Nat}
    (unfinished : isLast (look playthrough).1 = false)
    (left : turns ≠ some 0) :
    playAlong turns playthrough (input :: inputs) =
      conclude ((look playthrough).2.1 ++ [.prompt]) (look playthrough).2.2
        (fun next => playAlong (turns.map (· - 1)) next inputs)
        (obey (look playthrough).1 input (look playthrough).2.2) := by
  rw [playAlong_eq, if_neg]
  rw [unfinished, Bool.false_or, beq_iff_eq]
  exact left

/-- However a playthrough ends, its session is closed. -/
private theorem playAlong_closed (turns : Option Nat) (inputs : List String)
    (steady : ∀ read last, Turns playthrough read last → Steady last) :
    (playAlong turns playthrough inputs).playthrough.world.closed = true := by
  -- by induction on the lines: a turn at which one is left unread ends in closing
  induction inputs generalizing turns playthrough with
  | nil =>
      obtain ⟨printed, ended⟩ := playAlong_nil turns playthrough
      rw [ended]
      exact (steady [] _ .nil).closes.2
  | cons input inputs hypothesis =>
      by_cases done : isLast (look playthrough).1 = true ∨ turns = some 0
      · rw [playAlong_of_over done]
        exact (steady [] _ .nil).closes.2
      obtain ⟨unfinished, left⟩ := not_or.mp done
      rw [Bool.not_eq_true] at unfinished
      rw [playAlong_cons unfinished left]
      cases obeyed : obey (look playthrough).1 input (look playthrough).2.2 with
      | stops => exact (steady [] _ .nil).closes.2
      | breaks => exact (steady [] _ .nil).closes.2
      | goesOn printed next =>
          exact hypothesis _ fun read last turns =>
            steady _ _ (.cons unfinished obeyed turns)

/-- What is put in breaks a playthrough off: with one line, at a turn that it is read at. -/
def BreaksOff (turns : Option Nat) (playthrough : Playthrough) (inputs : List String)
    (error : Breakdown) : Prop :=
  ∃ read input rest last, inputs = read ++ input :: rest ∧
    (∀ limit, turns = some limit → read.length < limit) ∧ Turns playthrough read last ∧
    Baffles last input error

/-- What breaks a playthrough off does so at this turn or at a later one. -/
theorem BreaksOff.turn {turns : Option Nat} {error : Breakdown}
    (breaks : BreaksOff turns playthrough (input :: inputs) error) :
    isLast (look playthrough).1 = false ∧ turns ≠ some 0 ∧
      (Baffles playthrough input error ∨ ∃ printed next,
        obey (look playthrough).1 input (look playthrough).2.2 = .goesOn printed next ∧
        BreaksOff (turns.map (· - 1)) next inputs error) := by
  obtain ⟨read, last, rest, final, split, limited, turned, baffles⟩ := breaks
  have left : turns ≠ some 0 := fun none => absurd (limited 0 none) (Nat.not_lt_zero _)
  cases turned with
  | nil =>
      obtain ⟨rfl, rfl⟩ := List.cons.inj split
      exact ⟨isLast_of_shown baffles.1, left, .inl baffles⟩
  | @cons _ next _ printed _ read unfinished goes turned =>
      obtain ⟨rfl, rfl⟩ := List.cons.inj split
      refine ⟨unfinished, left, .inr ⟨printed, next, goes, read, last, rest, final, rfl, ?_, turned,
        baffles⟩⟩
      intro limit fewer
      obtain ⟨more, allowed, rfl⟩ := Option.map_eq_some_iff.mp fewer
      have within := limited more allowed
      rw [List.length_cons] at within
      exact Nat.lt_sub_of_add_lt within

theorem BreaksOff.cons {turns : Option Nat} {error : Breakdown}
    (unfinished : isLast (look playthrough).1 = false) (left : turns ≠ some 0)
    (goes : obey (look playthrough).1 input (look playthrough).2.2 = .goesOn printed next)
    (breaks : BreaksOff (turns.map (· - 1)) next inputs error) :
    BreaksOff turns playthrough (input :: inputs) error := by
  obtain ⟨read, last, rest, final, rfl, limited, turned, baffles⟩ := breaks
  refine ⟨input :: read, last, rest, final, rfl, ?_, .cons unfinished goes turned, baffles⟩
  rintro limit rfl
  have within := limited (limit - 1) rfl
  have some : limit ≠ 0 := fun none => left (by rw [none])
  rw [List.length_cons]
  omega

/-- A playthrough ends with an error just where what is put in breaks it off. -/
private theorem playAlong_error_iff {error : Breakdown} (turns : Option Nat)
    (inputs : List String) :
    (playAlong turns playthrough inputs).error = some error ↔
      BreaksOff turns playthrough inputs error := by
  induction inputs generalizing turns playthrough with
  | nil =>
      obtain ⟨printed, ended⟩ := playAlong_nil turns playthrough
      rw [ended]
      constructor
      · intro impossible
        cases impossible
      rintro ⟨read, input, rest, _, split, _⟩
      exact absurd split.symm
        (List.append_ne_nil_of_right_ne_nil read (List.cons_ne_nil input rest))
  | cons input inputs hypothesis =>
      by_cases done : isLast (look playthrough).1 = true ∨ turns = some 0
      · rw [playAlong_of_over done]
        constructor
        · intro impossible
          cases impossible
        intro breaks
        obtain ⟨unfinished, left, -⟩ := breaks.turn
        rcases done with last | none
        · rw [unfinished] at last
          cases last
        · exact absurd none left
      obtain ⟨unfinished, left⟩ := not_or.mp done
      rw [Bool.not_eq_true] at unfinished
      rw [playAlong_cons unfinished left]
      constructor
      · intro broken
        cases obeyed : obey (look playthrough).1 input (look playthrough).2.2 with
        | stops =>
            rw [obeyed] at broken
            cases broken
        | breaks =>
            rw [obeyed] at broken
            cases broken
            exact ⟨[], input, inputs, _, rfl,
              fun limit some => Nat.pos_of_ne_zero fun none => left (by rw [some, none]), .nil,
              obey_breaks_iff.mp obeyed⟩
        | goesOn =>
            rw [obeyed] at broken
            exact .cons unfinished left obeyed ((hypothesis _).mp broken)
      · intro breaks
        obtain ⟨-, -, baffles | ⟨printed, next, goes, later⟩⟩ := breaks.turn
        · rw [obey_breaks_iff.mpr baffles]
          rfl
        · rw [goes]
          exact (hypothesis _).mpr later

end Playthrough

open Playthrough

/-- A playthrough comes to its end with a closed session whatever is put in, and every operation on
the way does. It ends without an error unless a word of digits that make no number is put in at a
menu. -/
theorem recite_endures (novel : Novel) (preferences : Preferences) (turns : Option Nat)
    (inputs : List String) :
    Settles .start (Playthrough.opened novel preferences) ∧
    (∀ read last, Turns (start novel preferences) read last → Steady last) ∧
    (recite novel preferences false (turns.map .value) inputs).playthrough.world.closed = true ∧
    ∀ error, (recite novel preferences false (turns.map .value) inputs).error = some error ↔
      BreaksOff turns (start novel preferences) inputs error := by
  have steady : ∀ read last, Turns (start novel preferences) read last → Steady last :=
    fun _ _ turns => turns.steady
  have recited : recite novel preferences false (turns.map .value) inputs =
      playAlong turns (start novel preferences) inputs := by
    cases turns <;> rfl
  rw [recited]
  exact ⟨settles_start rfl, steady, playAlong_closed turns inputs steady,
    fun _ => playAlong_error_iff turns inputs⟩

theorem recite_endures_superscript :
    Settles .start (Playthrough.opened Sample.crossroads {}) ∧
    (∃ last, Turns (start Sample.crossroads {}) [" M", "2"] last ∧ Steady last ∧
      (look last).1.showChoices = true) ∧
    (recite Sample.crossroads {} false (some (.value 3))
      [" M", "2", "²", "q"]).playthrough.world.closed = true ∧
    (recite Sample.crossroads {} false (some (.value 3)) [" M", "2", "²", "q"]).error =
      some (.badNumber "²" .malformed) := by
  obtain ⟨settles, steady, closed, breaks⟩ :=
    recite_endures Sample.crossroads {} (some 3) [" M", "2", "²", "q"]
  obtain ⟨last, turned, shown⟩ : ∃ last, Turns (start Sample.crossroads {}) [" M", "2"] last ∧
      (look last).1.showChoices = true := by
    refine ⟨_, .cons ?_ rfl (.cons ?_ rfl .nil), ?_⟩ <;> decide +kernel
  refine ⟨settles, ⟨last, turned, steady _ _ turned, shown⟩, closed, (breaks _).mpr ?_⟩
  refine ⟨[" M", "2"], "²", ["q"], last, rfl, ?_, turned, shown, by decide +kernel, ?_, ?_⟩
  · rintro limit ⟨⟩
    decide
  · intro countable
    exact absurd (countable.valued '²' (by decide +kernel)) (by decide +kernel)
  · exact ⟨.malformed, rfl, by decide +kernel⟩

/-- A word of digits that make no number, put in at a menu, breaks a playthrough off. -/
theorem digit_without_value_put_in :
    (Novel.ofValue Sample.signpost).1 = .ok Sample.crossroads ∧
      (recite Sample.crossroads {} false none ["²"]).error = some (.badNumber "²" .malformed) :=
  ⟨rfl, rfl⟩

end VisualNovel.Console
