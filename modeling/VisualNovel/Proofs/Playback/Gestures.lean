import VisualNovel.Proofs.Playback.Effort
import VisualNovel.Proofs.Playback.Lengths
import VisualNovel.Proofs.Playback.Progress
import VisualNovel.Proofs.Playback.Refusals

/-!
# Keys and clicks

The keys for going on are ignored where the frame shows a menu with the whole line
before it. The player knows nothing of frames: it goes by how much of the line it
has revealed. Both tell the same, so that a key does what a click does.
-/

set_option autoImplicit false

namespace VisualNovel.Playback

open VisualNovel.Agenda VisualNovel.Clock VisualNovel.Event VisualNovel.Novel VisualNovel.Sound
open VisualNovel.Text

variable {β κ η : Type}

namespace Session

/-! ## What is ignored -/

/-- The keys are ignored where a menu is reached and the frame shows the whole line. -/
theorem keysSuppressed_compose (novel : Novel) (position : Position) (muted : Bool) :
    keysSuppressed (compose novel position muted) =
      (!position.finished &&
        (position.dialogue? novel).any fun dialogue => dialogue.hasChoices &&
          decide ((dialogue.text.length : Int) ≤
            max 0 (min position.revealed dialogue.text.length))) := by
  unfold keysSuppressed Frame.fullyRevealed compose resolve
  cases ended : position.finished with
  | true => simp
  | false =>
      unfold Position.dialogue? dialogueAt?
      cases novel.sceneAt? position.scene with
      | none => simp
      | some scene =>
          cases line : scene.dialogueAt? position.dialogue with
          | none => simp [line]
          | some dialogue => simp [line, Dialogue.hasChoices]

variable {session : Session β κ η}

/-- Where the keys are ignored a menu is reached, and nothing of its line is left to be
revealed. -/
theorem menu_of_keysSuppressed (counted : session.Counted) (measured : session.Measured)
    (suppressed : keysSuppressed session.world.frame = true) :
    session.world.dialogue?.any Dialogue.hasChoices = true ∧
      session.world.position.isTyping = false := by
  unfold Stage.frame at suppressed
  rw [keysSuppressed_compose, Bool.and_eq_true] at suppressed
  obtain ⟨dialogue, found, menu⟩ := (Option.any_eq_true _ _).mp suppressed.2
  rw [Bool.and_eq_true, decide_eq_true_eq] at menu
  obtain ⟨menu, revealed⟩ := menu
  have within := measured dialogue found
  have some := counted.revealed
  have typed : ¬ session.world.position.revealed < session.world.position.textLength := by omega
  exact ⟨(Option.any_eq_true _ _).mpr ⟨dialogue, found, menu⟩, by simp [Position.isTyping, typed]⟩

private theorem advance_of_keysSuppressed (counted : session.Counted) (measured : session.Measured)
    (suppressed : keysSuppressed session.world.frame = true) :
    advance session = refuse session := by
  obtain ⟨menu, typed⟩ := menu_of_keysSuppressed counted measured suppressed
  simp [advance, menu, typed]

variable [Device β] [DecidableEq κ] {callbacks : Callbacks κ η} {sights : List Sight}
  {answer : Answer} {after : Session β κ η} {novel : Novel} {preferences : Preferences}
  {device : β} {now : Int} {notes : η} {name : String} {tasks : List (Task κ η)}

theorem Unfolds.settled {admits : Admission β κ η}
    (unfolds : Unfolds callbacks admits [] (new novel preferences device now notes) [] session) :
    session.Counted ∧ session.Measured := by
  have measured : Measured (new novel preferences device now notes : Session β κ η) :=
    fun _ _ => Int.natCast_nonneg _
  obtain ⟨counted, settled⟩ := unfolds.gauged ⟨le_rfl, le_rfl⟩ measured
  exact ⟨counted, settled.resolve_right (by simp [Enter])⟩

/-! ## What comes to an end -/

/-- Where telling an event comes to an end, so does whatever the player has to do. -/
theorem completes_own
    (tells : ∀ (session : Session β κ η) (event : Event), ∃ sights after,
      Completes sighting (clockwork callbacks).step [.work (.emit event)] session sights after)
    (own : ∀ task ∈ tasks, task.isOwn = true) (session : Session β κ η) :
    ∃ sights after,
      Completes sighting (clockwork callbacks).step (tasks.map .work) session sights after := by
  generalize reckoned : efforts 1 tasks = effort
  induction effort using Nat.strongRecOn generalizing tasks session with
  | ind effort hypothesis =>
      subst reckoned
      cases tasks with
      | nil => exact ⟨[], session, .nil⟩
      | cons task rest =>
          have ownRest : ∀ task ∈ rest, task.isOwn = true :=
            fun task member => own task (List.mem_cons_of_mem _ member)
          have whole : efforts 1 (task :: rest) = task.effort 1 + efforts 1 rest :=
            efforts_append 1 [task] rest
          by_cases told : ∃ event, task = .emit event
          · obtain ⟨event, rfl⟩ := told
            have tells' : (Task.emit event : Task κ η).effort 1 = 1 := rfl
            obtain ⟨_, middle, first⟩ := tells session event
            obtain ⟨_, after, second⟩ := hypothesis (efforts 1 rest) (by omega) ownRest middle rfl
            exact ⟨_, after, first.append second⟩
          · have silent (event : Event) (same : task = .emit event) : False := told ⟨event, same⟩
            have ownTask := own task List.mem_cons_self
            have takes := effort_pos 1 ownTask silent
            obtain ⟨move, acts, modest⟩ := modest_act callbacks 1 ownTask silent session
            have within := modest.within
            have joined := efforts_append 1 move.2 rest
            have ownAll : ∀ task ∈ move.2 ++ rest, task.isOwn = true := by
              intro task member
              rcases List.mem_append.mp member with member | member
              · exact modest.own task member
              · exact ownRest task member
            obtain ⟨sights, after, left⟩ :=
              hypothesis (efforts 1 (move.2 ++ rest)) (by omega) ownAll move.1 rfl
            rw [List.map_append] at left
            exact ⟨_, after, .of_step acts left⟩

/-- Listeners that make no moves hear every event to its end. -/
theorem completes_emit (quiet : callbacks.Quiet) (session : Session β κ η) (event : Event) :
    ∃ sights after,
      Completes sighting (clockwork callbacks).step [.work (.emit event)] session sights after := by
  obtain ⟨after, completes, _⟩ := overheard_deliveries quiet event
    (session.world.bus.heard event.name) (emit session event).1
  rw [← List.append_nil (List.map _ _)] at completes
  exact ⟨_, after, .of_step rfl completes⟩

private theorem completes_advance (quiet : callbacks.Quiet) (session : Session β κ η) :
    ∃ sights after,
      Completes sighting (clockwork callbacks).step [.work (.request .advance)] session sights
        after := by
  have modest : session.Modest 1 15 (whenOpen session (advance session)) :=
    modest_whenOpen (modest_advance session) (by omega)
  obtain ⟨_, after, left⟩ := completes_own (completes_emit quiet) modest.own
    (whenOpen session (advance session)).1
  rw [← List.append_nil (List.map _ _)] at left
  exact ⟨_, after, .of_step rfl left⟩

/-! ## What comes of a gesture -/

theorem performs_refused {made : Request κ} (begun : begin session made = jobs (refuse session)) :
    Performs callbacks session made [] (.flag false) (session.reply (.flag false)) :=
  performs_iff.mpr ⟨.of_step begun (.of_step rfl .nil), rfl⟩

/-- Requests of which the same comes are performed alike. -/
theorem Performs.alike {made other : Request κ} {final : Session β κ η} {seen : List Sight}
    {given : Answer} (first : Performs callbacks session made seen given final)
    (second : Performs callbacks session other seen given final) :
    Performs callbacks session made sights answer after ↔
      Performs callbacks session other sights answer after := by
  constructor
  · intro performed
    obtain ⟨rfl, rfl, rfl⟩ := first.unique performed
    exact second
  · intro performed
    obtain ⟨rfl, rfl, rfl⟩ := second.unique performed
    exact first

/-- Where a gesture leaves one request to be made, all that comes of it is what comes of that. -/
theorem performs_gesture {gesture : Gesture} {made : Request κ}
    (isOpen : session.world.closed = false) (means : meaning session gesture = [.request made]) :
    Performs callbacks session (.gesture gesture) sights answer after ↔
      Performs callbacks session made sights answer after := by
  have begun : (clockwork callbacks).step (.work (.request (.gesture gesture))) session =
      (session, [.work (.request made)]) := by
    show begin session (.gesture gesture) = _
    simp [begin, isOpen, jobs, means]
  rw [performs_iff, performs_iff]
  refine and_congr_left fun _ => ⟨fun completes => ?_, fun completes => .of_step begun completes⟩
  obtain ⟨rest, rfl, left⟩ := completes.uncons begun
  exact left

theorem performs_ignored {gesture : Gesture} (closed : session.world.closed = true) :
    Performs callbacks session (.gesture gesture) [] gesture.ignored
      (session.reply gesture.ignored) := by
  have begun : (clockwork callbacks).step (.work (.request (.gesture gesture))) session =
      (session.reply gesture.ignored, []) := by
    show begin session (.gesture gesture) = _
    simp [begin, closed]
  exact performs_iff.mpr ⟨.of_step begun .nil, rfl⟩

/-- A click goes on, in whatever state. -/
theorem performs_click :
    Performs callbacks session (.gesture .click) sights answer after ↔
      Performs callbacks session .advance sights answer after := by
  cases closed : session.world.closed with
  | false => exact performs_gesture closed rfl
  | true =>
      have refused : begin session .advance = jobs (refuse session) := by
        simp [begin, whenOpen, closed]
      exact (performs_ignored closed).alike (performs_refused refused)

/-- Where the keys for going on are ignored, going on is refused. -/
theorem performs_advance_of_keysSuppressed (counted : session.Counted)
    (measured : session.Measured) (suppressed : keysSuppressed session.world.frame = true) :
    Performs callbacks session .advance [] (.flag false) (session.reply (.flag false)) := by
  apply performs_refused
  show jobs (whenOpen session (advance session)) = _
  rw [advance_of_keysSuppressed counted measured suppressed, whenOpen, ite_self]

/-- A key for going on goes on, wherever a session takes its line for no longer than it is. -/
theorem performs_key (counted : session.Counted) (measured : session.Measured)
    (advances : lower name ∈ advanceKeys) :
    Performs callbacks session (.gesture (.key name)) sights answer after ↔
      Performs callbacks session .advance sights answer after := by
  cases closed : session.world.closed with
  | true =>
      have clicked : Performs callbacks session (.gesture .click) [] (.flag false)
          (session.reply (.flag false)) := performs_ignored closed
      exact ((performs_ignored closed).alike clicked).trans performs_click
  | false =>
      cases suppressed : keysSuppressed session.world.frame with
      | false => exact performs_gesture closed (by simp [meaning, advances, suppressed])
      | true =>
          have begun : begin session (.gesture (.key name)) = jobs (refuse session) := by
            simp [begin, closed, meaning, advances, suppressed, refuse]
          exact (performs_refused begun).alike
            (performs_advance_of_keysSuppressed counted measured suppressed)

/-- Whatever has come to pass, a key for going on does what a click does: it gets the same answer
and leads to the same session, with the same events told on the way. What a click does is what
going on does, and so is what the key does. Where the frame has it ignored, going on would have
changed nothing. As long as nobody who listens makes a move, both come to an end. -/
theorem key_agrees_with_click
    (reached : Unfolds callbacks freely [] (new novel preferences device now notes) [] session)
    (advances : lower name ∈ advanceKeys) :
    (∀ sights answer after,
        Performs callbacks session (.gesture (.key name)) sights answer after ↔
          Performs callbacks session (.gesture .click) sights answer after) ∧
      (∀ sights answer after,
        (Performs callbacks session (.gesture .click) sights answer after ↔
            Performs callbacks session .advance sights answer after) ∧
          (Performs callbacks session (.gesture (.key name)) sights answer after ↔
            Performs callbacks session .advance sights answer after)) ∧
      (keysSuppressed session.world.frame = true →
        Performs callbacks session .advance [] (.flag false) (session.reply (.flag false))) ∧
      (callbacks.Quiet → ∃ sights answer after,
        Performs callbacks session (.gesture (.key name)) sights answer after ∧
          Performs callbacks session (.gesture .click) sights answer after) := by
  obtain ⟨counted, measured⟩ := reached.settled
  refine ⟨fun _ _ _ => (performs_key counted measured advances).trans performs_click.symm,
    fun _ _ _ => ⟨performs_click, performs_key counted measured advances⟩,
    performs_advance_of_keysSuppressed counted measured, fun quiet => ?_⟩
  obtain ⟨sights, after, completes⟩ := completes_advance quiet session
  have performed := performs_iff.mpr ⟨completes, rfl⟩
  exact ⟨sights, _, after, (performs_key counted measured advances).mpr performed,
    performs_click.mpr performed⟩

/-- At the menu of a small novel, with somebody listening, neither leads on. -/
theorem key_agrees_with_click_at_menu : ∃ session : Session Rehearsal String Unit,
    Unfolds Sample.nobody freely [] (new Sample.novel {} Rehearsal.willing 0 ()) [] session ∧
      keysSuppressed session.world.frame = true ∧ "RETURN" ∉ advanceKeys ∧
      Performs Sample.nobody session (.gesture (.key "RETURN")) [] (.flag false)
        (session.reply (.flag false)) ∧
      Performs Sample.nobody session (.gesture .click) [] (.flag false)
        (session.reply (.flag false)) := by
  have listening : Unfolds Sample.nobody freely []
      (new Sample.novel {} Rehearsal.willing 0 () : Session Rehearsal String Unit) []
      (listen (new Sample.novel {} Rehearsal.willing 0 ()) "typing.complete" "diary") :=
    Unfolds.refl.listens "typing.complete" "diary"
  obtain ⟨menu, shown, suppressed⟩ : ∃ menu,
      takeTurns? Sample.nobody
          [(.start, 9), (.skipTyping, 5), (.gesture .click, 7), (.skipTyping, 5)]
          (listen (new Sample.novel {} Rehearsal.willing 0 ()) "typing.complete" "diary") =
        some menu ∧ keysSuppressed menu.world.frame = true :=
    ⟨_, rfl, by decide +kernel⟩
  have unfolds := listening.of_takeTurns? shown
  have advances : lower "RETURN" ∈ advanceKeys := by decide +kernel
  obtain ⟨agree, goesOn, refused, _⟩ := key_agrees_with_click unfolds advances
  have clicked := (goesOn _ _ _).1.mpr (refused suppressed)
  exact ⟨menu, unfolds, suppressed, by decide, (agree _ _ _).mpr clicked, clicked⟩

end Session

end VisualNovel.Playback
