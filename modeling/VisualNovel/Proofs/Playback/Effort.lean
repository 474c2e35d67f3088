import VisualNovel.Proofs.Agenda.Completion
import VisualNovel.Proofs.Playback.Audience
import VisualNovel.Proofs.Playback.Player.Prompt

/-!
# How much a session does at a time

Where telling an event takes at most so many tasks, every move of the player takes
at most so many, and so does waiting for the end of a transition with a player
that types at once: its timers go off one after another, and they are two at most.
-/

set_option autoImplicit false

namespace VisualNovel.Playback.Session

open VisualNovel.Agenda VisualNovel.Clock VisualNovel.Sound

variable {β κ η : Type}

theorem effort_pos (telling : Nat) {task : Task κ η} (own : task.isOwn = true)
    (silent : ∀ event, task ≠ .emit event) : 0 < task.effort telling := by
  cases task with
  | emit event => exact absurd rfl (silent event)
  | request | deliver | script | resume | forgetListeners => contradiction
  | reply | replyCount | enterScene | enterDialogue | typeLine | beginTransition | awaitCommit
  | commit | awaitClear | clear | strike => simp [Task.effort]

theorem efforts_append (telling : Nat) (tasks more : List (Task κ η)) :
    efforts telling (tasks ++ more) = efforts telling tasks + efforts telling more := by
  simp [efforts]

private theorem efforts_ring_le (callbacks : Callbacks κ η) (telling : Nat)
    (timer : Timer (Alarm κ)) :
    efforts telling (ring callbacks timer) ≤ 5 * telling + 6 := by
  unfold ring efforts
  cases timer.payload <;> simp [Task.effort] <;> omega

variable [Device β] [DecidableEq κ] {callbacks : Callbacks κ η} {session final : Session β κ η}
  {player next : Player κ} {tasks : List (Task κ η)} {jobs more : List (Job (Task κ η))}
  {holds : Audience β κ η → Prop} {telling effort count others : Nat}

/-- Jobs are done in at most so many steps, and leave those who listen as they should be. -/
def Finishes (callbacks : Callbacks κ η) (holds : Audience β κ η → Prop) (count : Nat)
    (jobs : List (Job (Task κ η))) (session : Session β κ η) : Prop :=
  ∃ final : Session β κ η, Steps (clockwork callbacks).step count jobs session [] final ∧
    holds final.audience

theorem Finishes.nil (held : holds session.audience) :
    Finishes callbacks holds count [] session :=
  ⟨session, .refl, held⟩

theorem Finishes.cons {job : Job (Task κ η)} {doing : Session β κ η × List (Job (Task κ η))}
    (stepped : (clockwork callbacks).step job session = doing)
    (rest : Finishes callbacks holds count (doing.2 ++ jobs) doing.1) :
    Finishes callbacks holds (count + 1) (job :: jobs) session := by
  subst stepped
  obtain ⟨final, steps, held⟩ := rest
  exact ⟨final, .cons steps, held⟩

theorem Finishes.last {job : Job (Task κ η)}
    (stepped : (clockwork callbacks).step job session = (final, []))
    (held : holds final.audience) : Finishes callbacks holds (count + 1) [job] session :=
  .cons stepped (.nil held)

theorem Finishes.mono (finishes : Finishes callbacks holds count jobs session)
    (enough : count ≤ others) : Finishes callbacks holds others jobs session := by
  obtain ⟨final, steps, held⟩ := finishes
  exact ⟨final, steps.mono enough, held⟩

theorem Finishes.append (first : Finishes callbacks holds count jobs session)
    (second : ∀ middle : Session β κ η, holds middle.audience →
      Finishes callbacks holds others more middle) :
    Finishes callbacks holds (count + others) (jobs ++ more) session := by
  obtain ⟨middle, steps, held⟩ := first
  obtain ⟨final, stepsNext, heldFinal⟩ := second middle held
  exact ⟨final, steps.append stepsNext, heldFinal⟩

/-- What follows may make use of what the session shows where the first jobs are done. -/
theorem Finishes.bind {post : Session β κ η → Prop}
    (first : Finishes callbacks holds count jobs session)
    (carries : Carries β callbacks jobs player next post) (shows : session.Shows player)
    (second : ∀ middle : Session β κ η, middle.Shows next → post middle →
      holds middle.audience → Finishes callbacks holds others more middle) :
    Finishes callbacks holds (count + others) (jobs ++ more) session := by
  obtain ⟨middle, steps, held⟩ := first
  obtain ⟨_, reached, completes, showsNext, _, holdsThere⟩ := carries session shows
  obtain ⟨rfl, _⟩ := steps.completes_iff.mp completes
  obtain ⟨final, stepsNext, heldFinal⟩ := second middle showsNext holdsThere held
  exact ⟨final, steps.append stepsNext, heldFinal⟩

def Terse (callbacks : Callbacks κ η) (telling : Nat) (holds : Audience β κ η → Prop) : Prop :=
  ∀ (session : Session β κ η) (event : Event), holds session.audience →
    Finishes callbacks holds telling [.work (.emit event)] session

/-- The player is done with its tasks after as many steps as they are reckoned to take. -/
theorem Terse.finishes (terse : Terse callbacks telling holds) (positive : 0 < telling)
    (own : ∀ task ∈ tasks, task.isOwn = true) (held : holds session.audience) :
    Finishes callbacks holds (efforts telling tasks) (tasks.map .work) session := by
  generalize reckoned : efforts telling tasks = effort
  induction effort using Nat.strongRecOn generalizing tasks session with
  | ind effort hypothesis =>
      subst reckoned
      cases tasks with
      | nil => exact .nil held
      | cons task rest =>
          have ownRest : ∀ task ∈ rest, task.isOwn = true :=
            fun task member => own task (List.mem_cons_of_mem _ member)
          have whole : efforts telling (task :: rest) =
              task.effort telling + efforts telling rest := efforts_append telling [task] rest
          by_cases told : ∃ event, task = .emit event
          · obtain ⟨event, rfl⟩ := told
            have tells : (Task.emit event : Task κ η).effort telling = telling := rfl
            rw [whole, tells]
            exact (terse session event held).append fun _ heldThen =>
              hypothesis (efforts telling rest) (by omega) ownRest heldThen rfl
          · have silent (event : Event) (same : task = .emit event) : False := told ⟨event, same⟩
            have ownTask := own task List.mem_cons_self
            have takes := effort_pos telling ownTask silent
            obtain ⟨move, acts, modest⟩ := modest_act callbacks telling ownTask silent session
            have within := modest.within
            have joined := efforts_append telling move.2 rest
            have ownAll : ∀ task ∈ move.2 ++ rest, task.isOwn = true := by
              intro task member
              rcases List.mem_append.mp member with member | member
              · exact modest.own task member
              · exact ownRest task member
            have left := hypothesis (efforts telling (move.2 ++ rest)) (by omega) ownAll
              (modest.keeps.audience.symm ▸ held) rfl
            rw [List.map_append] at left
            have acted : (clockwork callbacks).step (.work task) session = Session.jobs move := acts
            exact (Finishes.cons acted left).mono (by omega)

theorem Terse.request (terse : Terse callbacks telling holds) (positive : 0 < telling)
    {made : Request κ} {move : Move β κ η} (begun : begin session made = Session.jobs move)
    (modest : session.Modest telling effort move) (held : holds session.audience) :
    Finishes callbacks holds (effort + 1) [.work (.request made)] session := by
  have left := (terse.finishes positive modest.own (modest.keeps.audience.symm ▸ held)).mono
    modest.within
  rw [← List.append_nil (move.2.map Job.work)] at left
  exact .cons begun left

/-! ## The clock -/

/-- Moving the clock to the next phase is done in a bounded number of steps. -/
theorem Terse.update (terse : Terse callbacks telling holds) (positive : 0 < telling)
    (quiet : callbacks.Quiet) (shows : session.Shows player) {timer : Timer (Alarm κ)}
    (coherent : player.Coherent none (some timer)) (prompt : player.Prompt)
    (rested : player.Rested (some timer)) (held : holds session.audience) :
    Finishes callbacks holds (5 * telling + 10) [.update timer.due] session := by
  obtain ⟨timeline, next, following, taken, rung, after, _, restedNext, now, _⟩ :=
    coherent.goOff prompt
  have foreign := coherent.payload_ne_ring taken
  have own : timer.payload.isOwn = true := by
    cases payload : timer.payload with
    | ring cue => exact absurd payload (foreign cue)
    | strike | commit | clear => rfl
  have idle := after.idle restedNext
  rw [now] at idle
  have stands : max player.timeline.now timer.due = timer.due := max_eq_right (rested timer rfl).le
  have updates : (clockwork callbacks).step (.update timer.due) session =
      (session, [.drain timer.due 0]) := by
    rw [Clockwork.step_update (shows.timeline ▸ coherent.lined.waits.orderly.isOpen),
      shows.timeline, stands]
  have heldNow : holds (Session.audience { session with timeline }) := held
  have rings := (terse.finishes positive (ring_own callbacks own) heldNow).mono
    (efforts_ring_le callbacks telling timer)
  show Finishes callbacks holds (5 * telling + 6 + 2 + 1 + 1) _ _
  refine .cons updates (.cons (Clockwork.step_drain_fire (shows.timeline ▸ taken)) ?_)
  rw [List.append_assoc]
  show Finishes callbacks holds (5 * telling + 6 + 2) _ _
  refine rings.bind (carries_ring quiet foreign) (shows.withTimeline timeline)
    fun middle showsNext _ heldThen => ?_
  -- whatever the player waits for now is due later
  rw [rung] at showsNext
  exact .cons (Clockwork.step_drained (showsNext.timeline ▸ after.lined.waits.orderly.isOpen))
    (.last (Clockwork.step_drain_idle (showsNext.timeline ▸ idle)) heldThen)

/-- A flush is done in a bounded number of steps. -/
theorem Terse.flush (terse : Terse callbacks telling holds) (positive : 0 < telling)
    (quiet : callbacks.Quiet) (shows : session.Shows player)
    {phase : Option (Timer (Alarm κ))} (coherent : player.Coherent none phase)
    (prompt : player.Prompt) (rested : player.Rested phase) (held : holds session.audience)
    (limit : Int) (ran : Nat) :
    Finishes callbacks holds (Player.stages phase * (5 * telling + 12) + 1) [.flush limit ran]
      session := by
  generalize left : Player.stages phase = stages
  -- by induction on the stages that are left, each of which takes one move of the clock
  induction stages using Nat.strongRecOn generalizing session player phase ran with
  | ind stages hypothesis =>
      subst left
      by_cases enough : limit ≤ ran
      · exact .last (Clockwork.step_flush_enough enough) held
      cases phase with
      | none => exact .last (Clockwork.step_flush_idle (shows.timeline ▸ coherent.nextDue)) held
      | some timer =>
          obtain ⟨next, following, drained, after, promptNext, restedNext, _, fewer⟩ :=
            coherent.drain_one prompt rested
          have updates := terse.update positive quiet shows coherent prompt rested held
          have rest : Finishes callbacks holds
              (5 * telling + 10 + (Player.stages following * (5 * telling + 12) + 1 + 1))
              ([.update timer.due] ++ [.flushed limit ran]) session := by
            refine updates.bind (carries_update quiet timer.due (.coherent coherent)) shows ?_
            intro middle showsNext counted heldThen
            rw [drained] at showsNext counted
            exact .cons (Clockwork.step_flushed counted)
              (hypothesis _ fewer showsNext after promptNext restedNext heldThen (ran + 1) rfl)
          have once := Nat.mul_le_mul_right (5 * telling + 12) fewer
          rw [Nat.succ_mul] at once
          have goes : (clockwork callbacks).step (.flush limit ran) session =
              (session, [.update timer.due, .flushed limit ran]) :=
            Clockwork.step_flush_more (shows.timeline ▸ coherent.lined.waits.orderly.isOpen)
              enough (shows.timeline ▸ coherent.nextDue)
          exact (Finishes.cons goes rest).mono (by omega)

theorem Terse.await (terse : Terse callbacks telling holds) (positive : 0 < telling)
    (quiet : callbacks.Quiet) (shows : session.Shows player)
    {phase : Option (Timer (Alarm κ))} (coherent : player.Coherent none phase)
    (prompt : player.Prompt) (rested : player.Rested phase) (held : holds session.audience)
    (limit : Int) :
    Finishes callbacks holds (10 * telling + 27) [.work (.request (.flush limit))] session := by
  have begun : (clockwork callbacks).step (.work (.request (.flush limit))) session =
      (session, [.flush limit 0, .work .replyCount]) := rfl
  have flushes := terse.flush positive quiet shows coherent prompt rested held limit 0
  have counts : Finishes callbacks holds
      (Player.stages phase * (5 * telling + 12) + 1 + (0 + 1))
      ([.flush limit 0] ++ [.work .replyCount]) session :=
    flushes.append fun _ heldThen => .last rfl heldThen
  have twice := Nat.mul_le_mul_right (5 * telling + 12) (Player.stages_le phase)
  exact (Finishes.cons begun counts).mono (by omega)

theorem Finishes.performs {made : Request κ} {answer : Answer} {sights : List Sight}
    {budget : Nat} (finishes : Finishes callbacks holds count [.work (.request made)] session)
    (enough : count ≤ budget) (performed : Performs callbacks session made sights answer final) :
    perform? callbacks budget made session = some (answer, final) := by
  obtain ⟨completes, rfl⟩ := performs_iff.mp performed
  obtain ⟨_, steps, _⟩ := finishes
  obtain ⟨rfl, _⟩ := steps.completes_iff.mp completes
  unfold perform? Clockwork.run
  rw [run_mono enough steps.run]
  rfl

end VisualNovel.Playback.Session
