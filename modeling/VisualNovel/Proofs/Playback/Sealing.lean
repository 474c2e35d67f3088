import VisualNovel.Proofs.Playback.Conducting
import VisualNovel.Proofs.Playback.Unfolding

/-!
# Sealed sessions

A closed session that has no timers left and nothing in the slots of its sound
stays so, whatever is still to be done: no timer goes off and nothing more is asked
of the device. Its requests are answered at once, so whatever the callbacks do on
its last event comes to an end.
-/

set_option autoImplicit false

namespace VisualNovel.Playback.Session

open VisualNovel.Agenda VisualNovel.Clock VisualNovel.Event VisualNovel.Novel VisualNovel.Sound

variable {β κ η : Type}

structure Retired (session : Session β κ η) : Prop where
  closed : session.world.closed = true
  stopped : session.world.stopped = true
  shut : session.timeline.closed = true

/-- A closed session without timers and clips, with the timers that went off and the device. -/
structure Sealed (session : Session β κ η) (fired : List Firing) (device : β) : Prop where
  closed : session.world.closed = true
  stopped : session.world.stopped = true
  shut : session.timeline.Shut fired
  silent : session.world.sound.Silent
  device : session.world.sound.desk.device = device

variable {session next : Session β κ η} {fired : List Firing} {device : β}

theorem Retired.typeLine? (retired : session.Retired) : session.typeLine? = none := by
  have still : session.world.isActive = false := by simp [Stage.isActive, retired.stopped]
  unfold Session.typeLine?
  simp only [still, Bool.not_false, Bool.true_or, if_true]
  split <;> rfl

namespace Sealed

theorem retired (sealed : session.Sealed fired device) : session.Retired :=
  ⟨sealed.closed, sealed.stopped, sealed.shut.closed⟩

theorem tends (sealed : session.Sealed fired device) (tends : session.Tends next) :
    next.Sealed fired device where
  closed := tends.closed.trans sealed.closed
  stopped := tends.stopped.trans sealed.stopped
  shut := sealed.shut.tends tends.timeline
  silent := tends.sound ▸ sealed.silent
  device := tends.sound ▸ sealed.device

theorem conducts [Device β] (sealed : session.Sealed fired device)
    (conducts : Conducts session.world.sound next.world.sound)
    (closed : next.world.closed = session.world.closed)
    (stopped : next.world.stopped = session.world.stopped)
    (timeline : next.timeline = session.timeline) : next.Sealed fired device := by
  obtain ⟨silent, same⟩ := conducts.silent sealed.silent
  constructor
  · exact closed.trans sealed.closed
  · exact stopped.trans sealed.stopped
  · exact timeline ▸ sealed.shut
  · exact silent
  · exact same.trans sealed.device

theorem isStale (sealed : session.Sealed fired device) (generation : Nat) :
    session.world.isStale generation = true := by
  simp [Stage.isStale, sealed.stopped]

end Sealed

inductive Brief : List (Job (Task κ η)) → Prop where
  | nothing : Brief []
  | reply (answer : Answer) : Brief [.work (.reply answer)]
  | count (limit : Int) : Brief [.flush limit 0, .work .replyCount]

structure Dismisses (session : Session β κ η) (fired : List Firing) (device : β)
    (decision : Session β κ η × List (Job (Task κ η))) : Prop where
  sealed : decision.1.Sealed fired device
  position : decision.1.world.position = session.world.position
  bus : decision.1.world.bus = session.world.bus
  chronicle : decision.1.world.chronicle = session.world.chronicle
  brief : Brief decision.2

section Requests

variable [Device β]

theorem Sealed.dismisses_reply (sealed : session.Sealed fired device) (answer : Answer) :
    session.Dismisses fired device (session.reply answer, []) :=
  ⟨sealed.conducts .still rfl rfl rfl, rfl, rfl, rfl, .nothing⟩

omit [Device β] in
private theorem Sealed.dismisses_refuse (sealed : session.Sealed fired device) :
    session.Dismisses fired device (jobs (refuse session)) :=
  ⟨sealed, rfl, rfl, rfl, .reply _⟩

variable [DecidableEq κ]

theorem Retired.refuses (retired : session.Retired) {made : Request κ}
    {move : Move β κ η} (asked : made.move? session = some move) :
    begin session made = jobs (refuse session) := by
  have still : session.world.isActive = false := by simp [Stage.isActive, retired.stopped]
  cases made with
  | start | advance | choose | restart =>
      simp only [begin, whenOpen, retired.closed, if_true]
  | startTyping => simp only [begin, startTyping, retired.typeLine?]
  | skipTyping => simp [begin, skipTyping, still]
  | toggleMute | update | close | stop | flush | cancelTimers | later | setMuted | frame
  | statistics | isClosed | gesture => contradiction

/-- A sealed session dismisses every request. -/
theorem Sealed.dismisses (sealed : session.Sealed fired device) (made : Request κ) :
    session.Dismisses fired device (begin session made) := by
  cases made with
  | start | advance | choose | restart | startTyping | skipTyping =>
      rw [sealed.retired.refuses rfl]
      exact sealed.dismisses_refuse
  | toggleMute =>
      simp only [begin, sealed.closed, if_true]
      exact sealed.dismisses_reply _
  | update time =>
      simp only [begin, sealed.closed, if_true]
      exact sealed.dismisses_reply _
  | close =>
      simp only [begin, Session.close, sealed.closed, if_true]
      exact ⟨sealed, rfl, rfl, rfl, .reply _⟩
  | stop =>
      simp only [begin, stopPlayer, sealed.stopped, if_true]
      exact sealed.dismisses_reply _
  | flush limit => exact ⟨sealed, rfl, rfl, rfl, .count limit⟩
  | cancelTimers =>
      refine ⟨?_, rfl, rfl, rfl, .nothing⟩
      have shut : session.timeline.cancelAll.Shut fired :=
        ⟨sealed.shut.closed, rfl, sealed.shut.same⟩
      exact ⟨sealed.closed, sealed.stopped, shut, sealed.silent, sealed.device⟩
  | later delay label cue =>
      refine ⟨?_, rfl, rfl, rfl, .nothing⟩
      have shut : (session.timeline.later delay label (.ring cue)).2.Shut fired :=
        sealed.shut.tends (Timeline.Tends.refl.later delay label _)
      exact ⟨sealed.closed, sealed.stopped, shut, sealed.silent, sealed.device⟩
  | setMuted muted =>
      have mutes : Conducts session.world.sound (setMuted session muted).world.sound :=
        .answers (.setMuted muted)
      exact ⟨sealed.conducts mutes rfl rfl rfl, rfl, rfl, rfl, .nothing⟩
  | frame | statistics | isClosed => exact sealed.dismisses_reply _
  | gesture gesture =>
      simp only [begin, sealed.closed, if_true]
      exact sealed.dismisses_reply _

end Requests

variable [Device β] [DecidableEq κ] {callbacks : Callbacks κ η} {final : Session β κ η}
  {sights : List Sight}

theorem Sealed.clock (sealed : session.Sealed fired device) {job : Job (Task κ η)}
    (clock : ∀ task, job ≠ .work task) :
    Sealed ((clockwork callbacks).step job session).1 fired device ∧
      ∀ made ∈ ((clockwork callbacks).step job session).2, ∀ task, made ≠ .work task := by
  rcases Clockwork.step_clock_cases clock with ⟨now, ran, same, others⟩ | ⟨time, _, _, _, taken, _⟩
  · rw [same]
    refine ⟨?_, others⟩
    have shut := sealed.shut
    exact ⟨sealed.closed, sealed.stopped, ⟨shut.closed, shut.idle, shut.same⟩, sealed.silent,
      sealed.device⟩
  · rw [sealed.shut.takeDue] at taken
    contradiction

/-- Nothing that is left to be done breaks the seal. -/
theorem Sealed.step (sealed : session.Sealed fired device) (job : Job (Task κ η)) :
    Sealed ((clockwork callbacks).step job session).1 fired device := by
  cases job with
  | update | drain | drained | flush | flushed => exact (sealed.clock (by simp)).1
  | work task =>
      cases task using Task.byKind with
      | move task moves => exact sealed.tends (continues_step callbacks moves session).toTends
      | request made => exact (sealed.dismisses made).sealed
      | hear event =>
          have conducts := session.world.conducts_hear event
          cases event <;> exact sealed.conducts conducts rfl rfl rfl
      | cue event cue => exact sealed
      | script caller rest =>
          obtain ⟨_, _, same⟩ := world_proceed session caller rest
          simp only [Clockwork.step, clockwork, act, jobs, same]
          exact sealed.conducts .still rfl rfl rfl
      | emit | forgetListeners => exact sealed.conducts .still rfl rfl rfl
      | resume => exact sealed

theorem Sealed.completes {look : Job (Task κ η) → Session β κ η → List Sight}
    {tasks : List (Job (Task κ η))} (sealed : session.Sealed fired device)
    (completes : Completes look (clockwork callbacks).step tasks session sights final) :
    final.Sealed fired device := by
  induction completes with
  | nil => exact sealed
  | cons _ hypothesis => exact hypothesis (sealed.step _)

/-! ## What comes to an end -/

def Subsides (callbacks : Callbacks κ η) (tasks : List (Job (Task κ η)))
    (session : Session β κ η) : Prop :=
  ∃ final, Completes sighting (clockwork callbacks).step tasks session [] final

theorem Subsides.cons {job : Job (Task κ η)} {tasks : List (Job (Task κ η))}
    (silent : sighting job session = [])
    (subsides : Subsides callbacks (((clockwork callbacks).step job session).2 ++ tasks)
      ((clockwork callbacks).step job session).1) :
    Subsides callbacks (job :: tasks) session := by
  obtain ⟨final, completes⟩ := subsides
  have whole := Completes.cons completes
  rw [silent] at whole
  exact ⟨final, whole⟩

private theorem Sealed.subsides_append {tasks more : List (Job (Task κ η))}
    (sealed : session.Sealed fired device) (first : Subsides callbacks tasks session)
    (second : ∀ {middle : Session β κ η}, middle.Sealed fired device →
      Subsides callbacks more middle) :
    Subsides callbacks (tasks ++ more) session := by
  obtain ⟨middle, completes⟩ := first
  obtain ⟨final, rest⟩ := second (sealed.completes completes)
  exact ⟨final, completes.append rest⟩

private theorem Sealed.subsides_brief (sealed : session.Sealed fired device)
    {tasks : List (Job (Task κ η))} (brief : Brief tasks) :
    Subsides callbacks tasks session := by
  cases brief with
  | nothing => exact ⟨session, .nil⟩
  | reply answer => exact ⟨_, .cons .nil⟩
  | count limit =>
      apply Subsides.cons rfl
      simp only [Clockwork.step, sealed.shut.closed, Bool.true_or, if_true]
      exact ⟨_, .cons .nil⟩

private theorem Sealed.subsides_request (sealed : session.Sealed fired device) (made : Request κ) :
    Subsides callbacks [.work (.request made)] session := by
  have dismisses := sealed.dismisses made
  apply Subsides.cons rfl
  rw [List.append_nil]
  exact dismisses.sealed.subsides_brief dismisses.brief

/-- A script that is carried out on a sealed session comes to its end and tells nothing. -/
private theorem Sealed.subsides_script (sealed : session.Sealed fired device) (caller : Caller)
    (script : SessionScript κ η) :
    Subsides callbacks [.work (.script caller script)] session := by
  -- by induction on the script: every request it makes is answered at once
  induction script generalizing session with
  | done | fail => exact ⟨_, .cons .nil⟩
  | note change next hypothesis =>
      -- the step of the script is that of its rest on the session with the note made
      have noted : (withStage session fun stage =>
          { stage with notes := change stage.notes }).Sealed fired device :=
        sealed.conducts .still rfl rfl rfl
      obtain ⟨final, completes⟩ := hypothesis noted
      cases completes with
      | cons completes => exact ⟨final, .cons completes⟩
  | «recall» next hypothesis =>
      obtain ⟨final, completes⟩ := hypothesis session.world.notes sealed
      cases completes with
      | cons completes => exact ⟨final, .cons completes⟩
  | ask made next hypothesis =>
      apply Subsides.cons rfl
      have noted : Sealed ((clockwork callbacks).step
          (.work (.script caller (.ask made next))) session).1 fired device :=
        sealed.step _
      show Subsides callbacks ([.work (.request made)] ++ [.work (.resume caller next)]) _
      apply noted.subsides_append (noted.subsides_request made)
      intro middle sealed
      exact Subsides.cons rfl (hypothesis _ sealed)

private theorem Sealed.subsides_deliveries (sealed : session.Sealed fired device) (event : Event)
    (listeners : List (Listener κ)) :
    Subsides callbacks ((listeners.map (Task.deliver event)).map .work) session := by
  induction listeners generalizing session with
  | nil => exact ⟨session, .nil⟩
  | cons listener rest hypothesis =>
      have first : Subsides callbacks [.work (.deliver event listener)] session := by
        cases listener with
        | sound => exact ⟨_, .cons .nil⟩
        | cue cue =>
            apply Subsides.cons rfl
            exact sealed.subsides_script _ _
      exact sealed.subsides_append first fun sealed => hypothesis sealed

/-! ## Closing -/

/-- Closing seals a session. -/
theorem sealed_close (isOpen : session.world.closed = false)
    (emptied : session.world.sound.Emptied) :
    (close session).1.Sealed (close session).1.timeline.fired
      (close session).1.world.sound.desk.device := by
  have closedEmptied : (close session).1.world.sound.Emptied :=
    (conducts_close session).emptied emptied
  obtain ⟨_, closed, stopped, _⟩ := tends_stopPlayer
    (withStage session fun stage => { stage with closed := true })
  simp only [close, isOpen, Bool.false_eq_true, if_false] at closedEmptied ⊢
  generalize (stopPlayer
    (withStage session fun stage => { stage with closed := true })).2 = halted at *
  obtain ⟨timeline, sameClosed, sameStopped, shut⟩ :=
    closeSound_same { halted with timeline := halted.timeline.close }
  constructor
  · exact sameClosed.trans closed
  · exact sameStopped.trans stopped
  · rw [timeline]
    exact Timeline.shut_close _
  · exact ⟨shut, closedEmptied shut⟩
  · rfl

theorem step_close (callbacks : Callbacks κ η) (isOpen : session.world.closed = false) :
    (clockwork callbacks).step (.work (.request .close)) session =
      ((close session).1,
        [.work (.emit .closed), .work .forgetListeners, .work (.reply .nothing)]) := by
  simp [Clockwork.step, clockwork, act, begin, jobs, close, isOpen]

private theorem returns_close (callbacks : Callbacks κ η) (isOpen : session.world.closed = false)
    (emptied : session.world.sound.Emptied) :
    ∃ sights final,
      Completes sighting (clockwork callbacks).step [.work (.request .close)] session sights
        final := by
  have sealed : Sealed ((clockwork callbacks).step (.work (.emit .closed))
      (close session).1).1 _ _ := (sealed_close isOpen emptied).step _
  obtain ⟨told, delivered⟩ :=
    sealed.subsides_deliveries .closed ((close session).1.world.bus.heard "session.close")
  have last : Subsides callbacks [.work .forgetListeners, .work (.reply .nothing)] told :=
    ⟨_, .cons (.cons .nil)⟩
  obtain ⟨final, completes⟩ := last
  have whole : ∃ sights, Completes sighting (clockwork callbacks).step
      (((clockwork callbacks).step (.work (.request .close)) session).2 ++ [])
      ((clockwork callbacks).step (.work (.request .close)) session).1 sights final := by
    rw [step_close callbacks isOpen]
    exact ⟨_, .cons (delivered.append completes)⟩
  obtain ⟨_, whole⟩ := whole
  exact ⟨_, final, .cons whole⟩

private theorem sealed_of_completes_close (isOpen : session.world.closed = false)
    (emptied : session.world.sound.Emptied)
    (returned : Completes sighting (clockwork callbacks).step [.work (.request .close)] session
      sights final) :
    ∃ fired device, final.Sealed fired device := by
  cases returned with
  | cons returned =>
      rw [step_close callbacks isOpen] at returned
      exact ⟨_, _, (sealed_close isOpen emptied).completes returned⟩

/-! ## Sessions that can be closed -/

/-- A session that is sealed once it is closed, and can be closed before. -/
structure Sealable (session : Session β κ η) : Prop where
  emptied : session.world.sound.Emptied
  sealed : session.world.closed = true → ∃ fired device, session.Sealed fired device

omit [Device β] in
theorem sealable_new (novel : Novel) (preferences : Preferences) (device : β) (now : Int)
    (notes : η) : (new novel preferences device now notes : Session β κ η).Sealable where
  emptied impossible := absurd impossible Bool.false_ne_true
  sealed impossible := absurd impossible Bool.false_ne_true

omit [Device β] [DecidableEq κ] in
theorem Sealable.isOpen_of_active (sealable : session.Sealable)
    (active : session.world.isActive = true) : session.world.closed = false := by
  cases closed : session.world.closed with
  | false => rfl
  | true =>
      obtain ⟨_, _, sealed⟩ := sealable.sealed closed
      simp [Stage.isActive, sealed.stopped] at active

theorem Sealable.step (sealable : session.Sealable) (job : Job (Task κ η)) :
    Sealable ((clockwork callbacks).step job session).1 := by
  refine ⟨(conducts_step callbacks job session).emptied sealable.emptied, ?_⟩
  intro nowClosed
  cases closed : session.world.closed with
  | true =>
      obtain ⟨fired, device, sealed⟩ := sealable.sealed closed
      exact ⟨fired, device, sealed.step job⟩
  | false =>
      by_cases closes : job = .work (.request .close)
      · subst closes
        rw [step_close callbacks closed]
        exact ⟨_, _, sealed_close closed sealable.emptied⟩
      · rw [(stays_step callbacks closes session).1, closed] at nowClosed
        contradiction

theorem Sealable.closes (callbacks : Callbacks κ η) (sealable : session.Sealable) :
    ∃ sights after,
      Completes sighting (clockwork callbacks).step [.work (.request .close)] session sights
        after ∧
      ∃ fired device, after.Sealed fired device := by
  cases closed : session.world.closed with
  | true =>
      obtain ⟨fired, device, sealed⟩ := sealable.sealed closed
      obtain ⟨after, returned⟩ := sealed.subsides_request .close
      exact ⟨_, after, returned, fired, device, sealed.completes returned⟩
  | false =>
      obtain ⟨sights, after, returned⟩ := returns_close callbacks closed sealable.emptied
      exact ⟨sights, after, returned,
        sealed_of_completes_close closed sealable.emptied returned⟩

variable {admits : Admission β κ η} {left tasks : List (Job (Task κ η))} {first : Session β κ η}

theorem Unfolds.sealable (unfolds : Unfolds callbacks admits left first tasks session)
    (sealable : first.Sealable) : session.Sealable := by
  apply unfolds.invariant Sealable sealable
  · intro job session sealable
    exact sealable.step job
  · intro session name cue sealable
    refine ⟨sealable.emptied, fun closed => ?_⟩
    obtain ⟨fired, device, sealed⟩ := sealable.sealed closed
    exact ⟨fired, device, sealed.conducts .still rfl rfl rfl⟩

theorem Sealed.unfolds (sealed : first.Sealed fired device)
    (unfolds : Unfolds callbacks admits left first tasks session) :
    session.Sealed fired device := by
  apply unfolds.invariant (fun session => session.Sealed fired device) sealed
  · intro job session sealed
    exact sealed.step job
  · intro session name cue sealed
    exact sealed.conducts .still rfl rfl rfl

end VisualNovel.Playback.Session
