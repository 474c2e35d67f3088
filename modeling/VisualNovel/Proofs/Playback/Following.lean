import VisualNovel.Proofs.Playback.Order

/-!
# Sound that keeps abreast of what is told

Between requests the sound of an open session has been called for all that was told,
in that order, and for being muted. Closing the session is the last call; nothing is
told afterwards.
-/

set_option autoImplicit false

namespace VisualNovel.Sound.Coordinator.Call

def isPlaced : Call → Bool
  | .setMuted _ | .toggleMute => false
  | _ => true

end VisualNovel.Sound.Coordinator.Call

namespace VisualNovel.Playback

open VisualNovel.Agenda VisualNovel.Clock VisualNovel.Event VisualNovel.Novel VisualNovel.Sound
open Coordinator (Call)

variable {β κ η : Type}

def toHear? : Job (Task κ η) → Option Call
  | .work (.deliver event .sound) => event.call?
  | _ => none

def Session.told (session : Session β κ η) : List Event :=
  session.world.chronicle.reverse.map (·.2)

private theorem call?_eq_none {event : Event} (other : event.isPlaced = false) :
    event.call? = none := by
  cases event <;> first | rfl | contradiction

private theorem call?_ne_close {event : Event} {call : Call} (calls : event.call? = some call) :
    call ≠ .close ∧ call.isPlaced = true := by
  cases event with
  | sceneEnter | dialogueEnter | finished =>
      obtain rfl := Option.some.inj calls
      exact ⟨by simp, rfl⟩
  | typingComplete | transitionStart | transitionCommit | transitionEnd | choiceSelect | restarted
  | closed => contradiction

section Answers

variable [Device β]

private theorem Stage.sound_hear (stage : Stage β κ η) {event : Event} {call : Call}
    (calls : event.call? = some call) :
    (stage.hear event).sound = (stage.sound.answer call).cleared := by
  cases event with
  | sceneEnter | dialogueEnter | finished =>
      obtain rfl := Option.some.inj calls
      rfl
  | typingComplete | transitionStart | transitionCommit | transitionEnd | choiceSelect | restarted
  | closed => contradiction

private theorem Stage.hear_of_none (stage : Stage β κ η) {event : Event}
    (calls : event.call? = none) :
    stage.hear event = stage := by
  cases event <;> first | rfl | contradiction

/-- A coordinator has answered calls, but for the reports that were taken up. -/
def Answered (first : Coordinator β) (calls : List Call) (sound : Coordinator β) : Prop :=
  ∃ earlier, sound.mirrored (Desk.filed earlier) = first.run calls

variable {first sound : Coordinator β} {calls : List Call}

private theorem answered_nil (first : Coordinator β) : Answered first [] first := by
  refine ⟨[], ?_⟩
  simp only [Coordinator.mirrored, Desk.filed, List.append_nil]
  rfl

theorem Answered.answer (answered : Answered first calls sound) (call : Call) :
    Answered first (calls ++ [call]) (sound.answer call).cleared := by
  obtain ⟨earlier, same⟩ := answered
  refine ⟨(sound.answer call).desk.reports ++ earlier, ?_⟩
  rw [Coordinator.run_append, ← same]
  exact ((Desk.mirrors_filed earlier).answer sound call).symm

theorem Answered.journal (answered : Answered first calls sound) :
    sound.desk.journal = (first.run calls).desk.journal := by
  obtain ⟨earlier, same⟩ := answered
  rw [← same]
  rfl

theorem Answered.device (answered : Answered first calls sound) :
    sound.desk.device = (first.run calls).desk.device := by
  obtain ⟨earlier, same⟩ := answered
  rw [← same]
  rfl

theorem Answered.closed (answered : Answered first calls sound) :
    sound.closed = (first.run calls).closed := by
  obtain ⟨earlier, same⟩ := answered
  rw [← same]
  rfl

theorem Conducts.journal {before after : Coordinator β} (conducts : Conducts before after)
    (silent : before.Silent) : after.desk.journal = before.desk.journal := by
  cases conducts with
  | still => rfl
  | answers call =>
      have same := congrArg Desk.journal (silent.desk_answer call)
      exact same

end Answers

private theorem toHear?_of_unheard {job : Job (Task κ η)}
    (unheard : job.all Task.isUnheard = true) :
    toHear? job = none := by
  unfold toHear?
  split
  · contradiction
  · rfl

private theorem toHear?_of_calm {job : Job (Task κ η)} (calm : job.any Task.isUrgent = false) :
    toHear? job = none := by
  unfold toHear?
  split
  · next event => exact call?_eq_none calm
  · rfl

namespace Session

variable [Device β] [DecidableEq κ] {session : Session β κ η} {callbacks : Callbacks κ η}

def Mutes (session next : Session β κ η) : Prop :=
  next.world.sound = session.world.sound ∨
    ∃ muted, next.world.sound = (session.world.sound.answer (.setMuted muted)).cleared

private theorem mutes_begin {made : Request κ} (other : made ≠ .close) (session : Session β κ η) :
    session.Mutes (begin session made).1 := by
  by_cases plays : made.Plays
  · exact .inl (tends_begin plays session).sound
  · cases made with
    | toggleMute =>
        simp only [begin]
        split
        · exact .inl rfl
        · exact .inr ⟨_, rfl⟩
    | setMuted muted => exact .inr ⟨muted, rfl⟩
    | close => contradiction
    | stop => exact .inl (tends_stopPlayer session).1
    | cancelTimers | later | frame | statistics | isClosed => exact .inl rfl
    | gesture made =>
        simp only [begin]
        split
        · exact .inl rfl
        · exact .inl rfl
    | start | advance | choose | restart | startTyping | skipTyping | update | flush =>
        exact absurd trivial plays

private theorem mutes_step (callbacks : Callbacks κ η) {job : Job (Task κ η)}
    (other : job ≠ .work (.request .close)) (unheard : job.all Task.isUnheard = true)
    (session : Session β κ η) : session.Mutes ((clockwork callbacks).step job session).1 := by
  cases job with
  | update | drain | drained | flush | flushed =>
      exact .inl (congrArg Stage.sound (Clockwork.world_step (by simp)))
  | work task =>
      cases task using Task.byKind with
      | move task moves => exact .inl (continues_step callbacks moves session).sound
      | request made => exact mutes_begin (fun same => other (same ▸ rfl)) session
      | hear event => contradiction
      | cue event cue => exact .inl rfl
      | script caller rest =>
          obtain ⟨_, _, same⟩ := world_proceed session caller rest
          refine .inl ?_
          show (proceed session caller rest).1.world.sound = _
          rw [same]
      | emit | resume | forgetListeners => exact .inl rfl

/-! ## Open sessions -/

/-- The sound of an open session has been called for what was told, but for what it is to hear
yet, and for nothing else but being muted or not. -/
structure Abreast (first : Coordinator β) (calls : List Call) (tasks : List (Job (Task κ η)))
    (session : Session β κ η) : Prop where
  isOpen : session.world.closed = false
  answered : Answered first calls session.world.sound
  heard : calls.filter Call.isPlaced ++ tasks.filterMap toHear? =
    session.told.filterMap Event.call?
  going : .close ∉ calls

variable {first : Coordinator β} {calls : List Call} {tasks rest : List (Job (Task κ η))}

omit [Device β] [DecidableEq κ] in
private theorem awaited_eq_nil {tasks : List (Job (Task κ η))}
    (unheard : ∀ job ∈ tasks, job.all Task.isUnheard = true) :
    tasks.filterMap toHear? = [] :=
  List.filterMap_eq_nil_iff.mpr fun job listed => toHear?_of_unheard (unheard job listed)

omit [DecidableEq κ] in
/-- One more call is answered, which has nothing to do with what was told. -/
theorem Abreast.aside {call : Call} {next : Session β κ η}
    (abreast : Abreast first calls tasks session) (aside : call.isPlaced = false)
    (sound : next.world.sound = (session.world.sound.answer call).cleared)
    (isOpen : next.world.closed = false) (told : next.told = session.told) :
    Abreast first (calls ++ [call]) tasks next where
  isOpen := isOpen
  answered := sound ▸ abreast.answered.answer call
  heard := by
    rw [List.filter_append, List.filter_cons_of_neg (by simp [aside]), List.filter_nil,
      List.append_nil, told]
    exact abreast.heard
  going := by
    have other : call ≠ .close := by
      rintro rfl
      contradiction
    simpa [Ne.symm other] using abreast.going

omit [Device β] [DecidableEq κ] in
/-- The sound is to hear once of an event that calls it. -/
theorem awaited_deliveries (attentive : Attentive session.world.bus) (event : Event) :
    (session.deliveries event).filterMap toHear? = event.call?.toList := by
  cases calls : event.call? with
  | none =>
      apply List.filterMap_eq_nil_iff.mpr
      intro job listed
      obtain ⟨task, made, rfl⟩ := List.mem_map.mp listed
      obtain ⟨listener, _, rfl⟩ := List.mem_map.mp made
      cases listener with
      | sound => exact calls
      | cue cue => rfl
  | some call =>
      have placed : event.isPlaced = true := by
        rw [← Bool.not_eq_false]
        intro other
        rw [call?_eq_none other] at calls
        contradiction
      obtain ⟨cues, heard⟩ := attentive event placed
      let later : List (Job (Task κ η)) :=
        ((cues.map Listener.cue).map (Task.deliver event)).map Job.work
      have rest : later.filterMap toHear? = [] := by
        apply awaited_eq_nil
        intro job listed
        obtain ⟨task, made, rfl⟩ := List.mem_map.mp listed
        obtain ⟨listener, cued, rfl⟩ := List.mem_map.mp made
        obtain ⟨cue, _, rfl⟩ := List.mem_map.mp cued
        rfl
      have first : session.deliveries event = .work (.deliver event .sound) :: later := by
        unfold deliveries
        rw [heard]
        rfl
      have awaits : toHear? (.work (.deliver event .sound) : Job (Task κ η)) = some call := calls
      rw [first, List.filterMap_cons_some awaits, rest]
      rfl

omit [Device β] [DecidableEq κ] in
private theorem told_cons (session : Session β κ η) (time : Int) (event : Event) :
    told (withStage session fun stage =>
        { stage with chronicle := (time, event) :: stage.chronicle }) =
      session.told ++ [event] := by
  unfold told
  simp [withStage]

/-- An event that is told is going to be heard. -/
theorem Abreast.emit {event : Event}
    (abreast : Abreast first calls (.work (.emit event) :: rest) session)
    (prompt : Prompt (.work (.emit event) :: rest) session) :
    Abreast first calls
      (((clockwork callbacks).step (.work (.emit event)) session).2 ++ rest)
      ((clockwork callbacks).step (.work (.emit event)) session).1 where
  isOpen := abreast.isOpen
  answered := abreast.answered
  heard := by
    have noted : told ((clockwork callbacks).step (.work (.emit event)) session).1 =
        session.told ++ [event] := told_cons session session.timeline.now event
    have waiting : event.call?.toList ++ rest.filterMap toHear? =
        rest.filterMap toHear? ++ event.call?.toList := by
      cases calls : event.call? with
      | none => simp
      | some call =>
          -- what the sound is to hear is never put off, so nothing of the kind waits already
          have none : rest.filterMap toHear? = [] :=
            List.filterMap_eq_nil_iff.mpr fun job listed =>
              toHear?_of_calm (prompt.patient.later job listed)
          rw [none]
          rfl
    have made : (((clockwork callbacks).step (.work (.emit event)) session).2).filterMap toHear? =
        event.call?.toList := awaited_deliveries prompt.attentive event
    have heard := abreast.heard
    rw [List.filterMap_cons_none rfl] at heard
    have last : [event].filterMap Event.call? = event.call?.toList := by
      cases calls : event.call? <;> simp [calls]
    rw [noted, List.filterMap_append, List.filterMap_append, made, waiting, ← heard, last,
      List.append_assoc]
  going := abreast.going

/-- An event that is heard has the sound called. -/
theorem Abreast.deliver {event : Event}
    (abreast : Abreast first calls (.work (.deliver event .sound) :: rest) session) :
    ∃ calls, Abreast first calls
      (((clockwork callbacks).step (.work (.deliver event .sound)) session).2 ++ rest)
      ((clockwork callbacks).step (.work (.deliver event .sound)) session).1 := by
  obtain ⟨isOpen, answered, heard, going⟩ := abreast
  have same : ((clockwork callbacks).step (.work (.deliver event .sound)) session) =
      (withStage session fun stage => stage.hear event, []) := rfl
  have awaits : toHear? (.work (.deliver event .sound) : Job (Task κ η)) = event.call? := rfl
  cases calling : event.call? with
  | none =>
      rw [same, withStage, Stage.hear_of_none _ calling]
      rw [List.filterMap_cons_none (awaits.trans calling)] at heard
      exact ⟨calls, isOpen, answered, heard, going⟩
  | some call =>
      obtain ⟨other, placed⟩ := call?_ne_close calling
      rw [List.filterMap_cons_some (awaits.trans calling)] at heard
      have sound := Stage.sound_hear session.world calling
      have closed : (session.world.hear event).closed = session.world.closed := by
        cases event <;> rfl
      have chronicle : (session.world.hear event).chronicle = session.world.chronicle := by
        cases event <;> rfl
      refine ⟨calls ++ [call], closed.trans isOpen, ?_, ?_, ?_⟩
      · rw [same]
        exact sound ▸ answered.answer call
      · rw [same, List.filter_append, List.filter_cons_of_pos placed, List.append_assoc]
        unfold told
        rw [show (withStage session fun stage => stage.hear event).world.chronicle =
          session.world.chronicle from chronicle]
        exact heard
      · simpa [Ne.symm other] using going

/-- The sound keeps abreast, unless the session is closed. -/
theorem Abreast.step {job : Job (Task κ η)} (abreast : Abreast first calls (job :: rest) session)
    (prompt : Prompt (job :: rest) session) (other : job ≠ .work (.request .close)) :
    ∃ calls, Abreast first calls (((clockwork callbacks).step job session).2 ++ rest)
      ((clockwork callbacks).step job session).1 := by
  by_cases tells : ∃ event, job = .work (.emit event)
  · obtain ⟨event, rfl⟩ := tells
    exact ⟨calls, abreast.emit prompt⟩
  · have silent (event : Event) : job ≠ .work (.emit event) := fun same => tells ⟨event, same⟩
    cases unheard : job.all Task.isUnheard with
    | false =>
        obtain ⟨event, rfl⟩ : ∃ event, job = .work (.deliver event .sound) := by
          unfold Job.all Task.isUnheard at unheard
          split at unheard
          · split at unheard
            · exact ⟨_, rfl⟩
            · contradiction
          · contradiction
        exact abreast.deliver
    | true =>
        -- nothing is told and nothing is to be heard: the sound is muted or not, or left alone
        have withholds := withholds_step callbacks silent session
        have isOpen := (stays_step callbacks other session).1.trans abreast.isOpen
        have still : told ((clockwork callbacks).step job session).1 = session.told := by
          unfold told
          rw [withholds.chronicle]
        have heard := abreast.heard
        rw [List.filterMap_cons_none (toHear?_of_unheard unheard)] at heard
        have passes : (((clockwork callbacks).step job session).2 ++ rest).filterMap toHear? =
            rest.filterMap toHear? := by
          rw [List.filterMap_append, awaited_eq_nil withholds.unheard, List.nil_append]
        rcases mutes_step callbacks other unheard session with same | ⟨muted, sound⟩
        · refine ⟨calls, isOpen, ?_, ?_, abreast.going⟩
          · rw [same]
            exact abreast.answered
          · rw [passes, still]
            exact heard
        · have here : Abreast first calls
              (((clockwork callbacks).step job session).2 ++ rest) session :=
            ⟨abreast.isOpen, abreast.answered, passes.symm ▸ heard, abreast.going⟩
          exact ⟨_, here.aside rfl sound isOpen still⟩

/-! ## Closed sessions -/

/-- The sound of a closed session was called for all that was told, and to be closed at last.
Nothing is told or asked of the device any more but that the session is closed. -/
structure Relieved (first : Coordinator β) (calls : List Call) (tasks : List (Job (Task κ η)))
    (session : Session β κ η) : Prop where
  sealed : ∃ fired device, session.Sealed fired device
  spent : ∀ job ∈ tasks, job = .work (.emit .closed) ∨ job.all Task.isSpent = true
  device : session.world.sound.desk.device = (first.run (calls ++ [.close])).desk.device
  journal : session.world.sound.desk.journal = (first.run (calls ++ [.close])).desk.journal
  heard : calls.filter Call.isPlaced = session.told.filterMap Event.call?
  going : .close ∉ calls

private theorem sound_closeSound (going : session.world.sound.closed = false) :
    (closeSound session).world.sound = (session.world.sound.answer .close).cleared := by
  unfold closeSound withStage
  dsimp only
  rw [if_neg (by simp [going])]
  rfl

private theorem sound_close (isOpen : session.world.closed = false)
    (going : session.world.sound.closed = false) :
    (close session).1.world.sound = (session.world.sound.answer .close).cleared := by
  obtain ⟨same, _⟩ := tends_stopPlayer
    (withStage session fun stage => { stage with closed := true })
  have still : (withStage session fun stage => { stage with closed := true }).world.sound =
      session.world.sound := rfl
  rw [still] at same
  simp only [close, isOpen, Bool.false_eq_true, if_false]
  generalize (stopPlayer
    (withStage session fun stage => { stage with closed := true })).2 = halted at same ⊢
  have silenced : halted.world.sound.closed = false := by
    rw [same]
    exact going
  rw [← same]
  exact @sound_closeSound β κ η _ _ { halted with timeline := halted.timeline.close } silenced

/-- Closing a session that is told everything is the last call of its sound. -/
theorem Abreast.close (abreast : Abreast first calls (.work (.request .close) :: rest) session)
    (beginsOpen : first.closed = false) (prompt : Prompt (.work (.request .close) :: rest) session)
    (ordered : Ordered (.work (.request .close) :: rest)) (sealable : session.Sealable) :
    Relieved first calls
      (((clockwork callbacks).step (.work (.request .close)) session).2 ++ rest)
      ((clockwork callbacks).step (.work (.request .close)) session).1 := by
  obtain ⟨isOpen, answered, heard, going⟩ := abreast
  have sounding : session.world.sound.closed = false := by
    rw [answered.closed]
    exact Coordinator.isOpen_run beginsOpen going
  have awaits : rest.filterMap toHear? = [] :=
    List.filterMap_eq_nil_iff.mpr fun job listed =>
      toHear?_of_calm (prompt.patient.later job listed)
  rw [List.filterMap_cons_none rfl, awaits, List.append_nil] at heard
  rw [step_close callbacks isOpen]
  refine ⟨⟨_, _, sealed_close isOpen sealable.emptied⟩, ?_, ?_, ?_, ?_, going⟩
  · intro job member
    rcases List.mem_append.mp member with made | waiting
    · simp only [List.mem_cons, List.not_mem_nil, or_false] at made
      rcases made with rfl | rfl | rfl
      · exact .inl rfl
      · exact .inr rfl
      · exact .inr rfl
    · -- a request to close is not tame, so what waits for it is spent
      exact .inr (((List.pairwise_cons.mp ordered).1 job waiting).resolve_left id)
  · rw [sound_close isOpen sounding, (answered.answer .close).device]
  · rw [sound_close isOpen sounding, (answered.answer .close).journal]
  · have chronicle : (Session.close session).1.world.chronicle = session.world.chronicle :=
      (withholds_begin session .close).chronicle
    rw [heard]
    unfold told
    rw [chronicle]

/-- Nothing that is left to be done in a closed session reaches the sound or tells anything. -/
theorem Relieved.step {job : Job (Task κ η)}
    (relieved : Relieved first calls (job :: rest) session) :
    Relieved first calls (((clockwork callbacks).step job session).2 ++ rest)
      ((clockwork callbacks).step job session).1 := by
  obtain ⟨⟨fired, _, sealed⟩, spent, device, journal, heard, going⟩ := relieved
  have conducts := conducts_step callbacks job session
  have sameDevice := (conducts.silent sealed.silent).2.trans device
  have sameJournal := (conducts.journal sealed.silent).trans journal
  have waiting {made : List (Job (Task κ η))}
      (spentMade : ∀ next ∈ made, next.all Task.isSpent = true) :
      ∀ next ∈ made ++ rest, next = .work (.emit .closed) ∨ next.all Task.isSpent = true := by
    intro next member
    rcases List.mem_append.mp member with new | old
    · exact .inr (spentMade next new)
    · exact spent next (List.mem_cons_of_mem _ old)
  rcases spent job List.mem_cons_self with rfl | idle
  · have spentMade : ∀ next ∈ ((clockwork callbacks).step (.work (.emit .closed)) session).2,
        next.all Task.isSpent = true := by
      intro next member
      obtain ⟨task, listed, rfl⟩ := List.mem_map.mp member
      obtain ⟨listener, _, rfl⟩ := List.mem_map.mp listed
      rfl
    have noted : told ((clockwork callbacks).step (.work (.emit .closed)) session).1 =
        session.told ++ [.closed] := told_cons session session.timeline.now .closed
    refine ⟨⟨fired, _, sealed.step _⟩, waiting spentMade, sameDevice, sameJournal, ?_, going⟩
    rw [noted, List.filterMap_append, heard]
    exact (List.append_nil _).symm
  · obtain ⟨rests, spentMade⟩ := @Sealed.rests_step _ _ _ session _ _ _ _ callbacks sealed job idle
    refine ⟨⟨fired, _, sealed.step _⟩, waiting spentMade, sameDevice, sameJournal, ?_, going⟩
    rw [heard]
    unfold told
    rw [rests.chronicle]

/-! ## Runs -/

/-- At every moment of a run the sound was called for what was told, and it was closed last if the
session was. -/
theorem Unfolds.abreast {novel : Novel} {preferences : Preferences} {device : β} {now : Int}
    {notes : η}
    (unfolds : Unfolds callbacks freely [] (new novel preferences device now notes) tasks session)
    (quiet : callbacks.Quiet) :
    ∃ calls,
      Abreast (new novel preferences device now notes : Session β κ η).world.sound calls tasks
          session ∨
        Relieved (new novel preferences device now notes : Session β κ η).world.sound calls tasks
          session := by
  induction unfolds with
  | refl => exact ⟨[], .inl ⟨rfl, answered_nil _, rfl, List.not_mem_nil⟩⟩
  | @works job rest before reached _ hypothesis =>
      obtain ⟨calls, abreast | relieved⟩ := hypothesis
      · have prompt := reached.prompt (prompt_new novel preferences device now notes) abreast.isOpen
        by_cases closes : job = .work (.request .close)
        · subst closes
          have ordered := reached.ordered quiet ordered_nil
          have sealable := reached.sealable (sealable_new novel preferences device now notes)
          exact ⟨calls, .inr (abreast.close rfl prompt ordered sealable)⟩
        · obtain ⟨more, abreast⟩ := abreast.step prompt closes
          exact ⟨more, .inl abreast⟩
      · exact ⟨calls, .inr relieved.step⟩
  | asks made _ hypothesis =>
      obtain ⟨calls, abreast | relieved⟩ := hypothesis
      · exact ⟨calls, .inl ⟨abreast.isOpen, abreast.answered, abreast.heard, abreast.going⟩⟩
      · exact ⟨calls, .inr ⟨relieved.sealed, by simp [Job.all, Task.isSpent], relieved.device,
          relieved.journal, relieved.heard, relieved.going⟩⟩
  | listens name cue _ hypothesis =>
      obtain ⟨calls, abreast | relieved⟩ := hypothesis
      · exact ⟨calls, .inl ⟨abreast.isOpen, abreast.answered, abreast.heard, abreast.going⟩⟩
      · obtain ⟨fired, device, sealed⟩ := relieved.sealed
        exact ⟨calls, .inr ⟨⟨fired, device, sealed.conducts .still rfl rfl rfl⟩, relieved.spent,
          relieved.device, relieved.journal, relieved.heard, relieved.going⟩⟩

end Session

end VisualNovel.Playback
