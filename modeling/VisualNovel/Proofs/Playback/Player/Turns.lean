import VisualNovel.Proofs.Playback.Player.Moves

/-!
# The turns of a player

What one request does to a coherent player, whatever is asked for. Nothing else
than what is listed here ever happens.
-/

set_option autoImplicit false

namespace VisualNovel.Playback.Player

open VisualNovel.Clock VisualNovel.Novel

variable {κ : Type} {player next : Player κ} {strike phase following : Option (Timer (Alarm κ))}

structure Ended (player : Player κ) : Prop where
  unfinished : player.position.finished = false
  still : player.position.transitioning = false
  revealed : player.position.isTyping = false
  noMenu : player.dialogue?.any Dialogue.hasChoices = false

def hasNextLine (player : Player κ) : Bool :=
  player.scene?.any fun scene => player.position.dialogue + 1 < scene.dialogues.length

/-- The request by which a player leaves for another scene, and what it has told by then. -/
inductive Leaves (player : Player κ) : Request κ → Int → Player κ → Prop where
  | advance : player.Ended → player.hasNextLine = false →
      player.position.scene + 1 < player.novel.scenes.length →
      Leaves player .advance (player.position.scene + 1) player
  | choose {choiceId : String} {dialogue : Dialogue} {choice : Choice} {target : Nat} :
      player.dialogue? = some dialogue → dialogue.choice? choiceId = some choice →
      player.novel.sceneIndex? choice.targetSceneId = some target →
      Leaves player (.choose choiceId) target (player.emit (.choiceSelect choice target))

/-- What a request may do to a coherent player that waits for a phase. -/
inductive Turned (player : Player κ) (phase : Option (Timer (Alarm κ))) :
    Request κ → Answer → Player κ → Option (Timer (Alarm κ)) → Prop where
  | types {made : Request κ} {answer : Answer} {next : Player κ} :
      Types player next → Turned player phase made answer next phase
  | ticks {made : Request κ} {answer : Answer} {next : Player κ}
      {following : Option (Timer (Alarm κ))} :
      Ticks player phase next following → Turned player phase made answer next following
  | line {next : Player κ} :
      player.Ended → player.hasNextLine = true → Stays player.nextLine next →
      Continues player next →
      Turned player phase .advance (.flag true) next phase
  | leaves {made : Request κ} {target : Int} {ready next : Player κ}
      {following : Option (Timer (Alarm κ))} :
      player.position.finished = false → player.position.transitioning = false →
      Leaves player made target ready →
      Departs (ready.embark target) next target (player.timingOf target) following →
      Turned player phase made (.flag true) next following
  | finishes :
      player.Ended → player.hasNextLine = false →
      (player.novel.scenes.length : Int) ≤ player.position.scene + 1 →
      Turned player phase .advance (.flag true) player.finish none
  | restarts {next : Player κ} :
      player.position.finished = true → Stays player.rewind next →
      Continues player next →
      Turned player phase .restart (.flag true) next none

def Comes (player : Player κ) (phase : Option (Timer (Alarm κ))) (made : Request κ)
    (answer : Answer) (next : Player κ) : Prop :=
  ∃ begun following, next.Coherent begun following ∧ next.Rested following ∧
    player.Turned phase made answer next following

theorem Leaves.constant {made : Request κ} {target : Int} {ready : Player κ}
    (leaves : player.Leaves made target ready) :
    ready.novel = player.novel ∧ ready.timings = player.timings := by
  cases leaves <;> exact ⟨rfl, rfl⟩

theorem Stays.rested (stays : Stays player next) (rested : player.Rested phase) :
    next.Rested phase := by
  intro timer which
  rw [stays.now]
  exact rested timer which

theorem Onward.rested {timing : Timing} {ending : List Sight}
    (onward : Onward player next timing phase ending) (now : next.now = player.now) :
    next.Rested phase := by
  cases onward with
  | wait takesTime due _ =>
      intro timer which
      obtain rfl := Option.some.inj which
      omega
  | done _ =>
      intro timer which
      contradiction

theorem Departs.rested {target : Int} {timing : Timing}
    (departs : Departs player next target timing phase) : next.Rested phase := by
  cases departs with
  | wait takesTime due _ same =>
      intro timer which
      obtain rfl := Option.some.inj which
      have now : next.now = player.now := by
        rw [same]
        exact Timeline.later_now _ _ _
      omega
  | arrive _ arrives =>
      obtain ⟨ending, _, _, _, onward, _⟩ := arrives.told
      exact onward.rested arrives.now

theorem Coherent.refused (coherent : player.Coherent strike phase)
    (rested : player.Rested phase) (made : Request κ) (answer : Answer) :
    player.Comes phase made answer player :=
  ⟨strike, phase, coherent, rested, .types (.refl player)⟩

private theorem Coherent.comes_startTyping (coherent : player.Coherent strike phase)
    (rested : player.Rested phase) :
    player.Comes phase .startTyping (.flag player.startTyping.1) player.startTyping.2 := by
  unfold startTyping
  cases typed : player.typeLine? with
  | none => exact coherent.refused rested _ _
  | some next =>
      obtain ⟨begun, after, types⟩ := coherent.typeLine typed
      exact ⟨begun, phase, after, types.stays.rested rested, .types types⟩

private theorem Coherent.comes_skipTyping (coherent : player.Coherent strike phase)
    (rested : player.Rested phase) (made : Request κ) :
    player.Comes phase made (.flag player.skipTyping.1) player.skipTyping.2 := by
  unfold skipTyping
  cases skipped : player.skip? with
  | none => exact coherent.refused rested _ _
  | some next =>
      obtain ⟨after, types⟩ := coherent.skip skipped
      exact ⟨none, phase, after, types.stays.rested rested, .types types⟩

theorem Coherent.emit (coherent : player.Coherent strike phase) (event : Event) :
    (player.emit event).Coherent strike phase :=
  ⟨coherent.started, coherent.lined.withPhase (coherent.lined.waits.congr rfl rfl rfl)
    rfl rfl rfl rfl rfl, coherent.placed, coherent.crossing.congr rfl rfl rfl rfl,
    coherent.closed⟩

/-- A player that leaves for a scene is coherent on its way. -/
theorem Leaves.departs {made : Request κ} {target : Int} {ready : Player κ}
    (leaves : player.Leaves made target ready) (coherent : player.Coherent strike phase)
    (unfinished : player.position.finished = false) :
    ∃ begun following, (ready.beginTransition target).Coherent begun following ∧
      Departs (ready.embark target) (ready.beginTransition target) target
        (player.timingOf target) following := by
  cases leaves with
  | advance _ _ further =>
      obtain ⟨scene, here, _⟩ := coherent.placed
      have inside := exists_sceneAt?.mp ⟨scene, here⟩
      obtain ⟨follower, follows⟩ :=
        exists_sceneAt?.mpr (⟨by omega, further⟩ : 0 ≤ player.position.scene + 1 ∧ _)
      exact coherent.beginTransition unfinished follows
  | @choose _ _ choice target _ _ led =>
      obtain ⟨scene, found⟩ := sceneAt?_of_sceneIndex? led
      exact (coherent.emit (.choiceSelect choice target)).beginTransition unfinished found

private theorem Coherent.comes_leaving {made : Request κ} {target : Int} {ready : Player κ}
    (coherent : player.Coherent strike phase) (unfinished : player.position.finished = false)
    (still : player.position.transitioning = false)
    (leaves : player.Leaves made target ready) :
    player.Comes phase made (.flag true) (ready.beginTransition target) := by
  obtain ⟨begun, following, after, departs⟩ := leaves.departs coherent unfinished
  exact ⟨begun, following, after, departs.rested, .leaves unfinished still leaves departs⟩

private theorem Coherent.comes_advance (coherent : player.Coherent strike phase)
    (rested : player.Rested phase) :
    player.Comes phase .advance (.flag player.advance.1) player.advance.2 := by
  unfold advance
  by_cases barred : (!player.started || player.position.finished ||
      player.position.transitioning) = true
  · rw [if_pos barred]
    exact coherent.refused rested _ _
  rw [if_neg barred]
  simp only [Bool.or_eq_true, not_or, Bool.not_eq_true] at barred
  obtain ⟨⟨_, unfinished⟩, still⟩ := barred
  by_cases typing : player.position.isTyping = true
  · rw [if_pos typing]
    exact coherent.comes_skipTyping rested _
  rw [if_neg typing]
  by_cases menu : player.dialogue?.any Dialogue.hasChoices = true
  · rw [if_pos menu]
    exact coherent.refused rested _ _
  rw [if_neg menu]
  have ended : player.Ended :=
    ⟨unfinished, still, Bool.not_eq_true _ ▸ typing, Bool.not_eq_true _ ▸ menu⟩
  obtain rfl := coherent.phase_eq_none still
  obtain ⟨scene, found, within⟩ := coherent.placed
  by_cases more : player.hasNextLine = true
  · have longer : player.position.dialogue + 1 < scene.dialogues.length := by
      simpa [hasNextLine, found] using more
    obtain ⟨begun, after, stays, continues⟩ := coherent.nextLine unfinished found longer
    unfold hasNextLine at more
    rw [if_pos more]
    exact ⟨begun, none, after, fun _ impossible => by contradiction,
      .line ended more stays continues⟩
  have last := more
  unfold hasNextLine at last
  rw [if_neg last]
  by_cases further : player.position.scene + 1 < player.novel.scenes.length
  · rw [if_pos further]
    exact coherent.comes_leaving unfinished still
      (.advance ended (Bool.not_eq_true _ ▸ more) further)
  · rw [if_neg further]
    exact ⟨none, none, coherent.finish ended.noMenu ended.revealed,
      fun _ impossible => by contradiction,
      .finishes ended (Bool.not_eq_true _ ▸ more) (by omega)⟩

private theorem Coherent.comes_choose (coherent : player.Coherent strike phase)
    (rested : player.Rested phase) (choiceId : String) :
    player.Comes phase (.choose choiceId) (.flag (player.choose choiceId).1)
      (player.choose choiceId).2 := by
  unfold choose
  by_cases barred : (!player.started || player.position.finished ||
      player.position.transitioning) = true
  · rw [if_pos barred]
    exact coherent.refused rested _ _
  rw [if_neg barred]
  simp only [Bool.or_eq_true, not_or, Bool.not_eq_true] at barred
  obtain ⟨⟨_, unfinished⟩, still⟩ := barred
  cases line : player.dialogue? with
  | none => exact coherent.refused rested _ _
  | some dialogue =>
      cases chosen : dialogue.choice? choiceId with
      | none =>
          simp only [Option.bind_some, chosen]
          exact coherent.refused rested _ _
      | some choice =>
          simp only [Option.bind_some, chosen]
          cases led : player.novel.sceneIndex? choice.targetSceneId with
          | none => exact coherent.refused rested _ _
          | some target =>
              exact coherent.comes_leaving unfinished still (.choose line chosen led)

private theorem Coherent.comes_restart (coherent : player.Coherent strike phase)
    (rested : player.Rested phase) :
    player.Comes phase .restart (.flag player.restart.1) player.restart.2 := by
  unfold Player.restart
  by_cases barred : (!player.started || !player.position.finished) = true
  · rw [if_pos barred]
    exact coherent.refused rested _ _
  · rw [if_neg barred]
    simp only [Bool.or_eq_true, not_or, Bool.not_eq_true, Bool.not_eq_false'] at barred
    obtain ⟨begun, after, stays, continues⟩ := coherent.restart
    exact ⟨begun, none, after, fun _ impossible => by contradiction,
      .restarts barred.2 stays continues⟩

/-- Every request leaves a player coherent, with no phase that is due. -/
theorem Coherent.comes (coherent : player.Coherent strike phase) (rested : player.Rested phase)
    (made : Request κ) :
    player.Comes phase made (player.respond made).1 (player.respond made).2 := by
  cases made with
  | start =>
      have refused : player.start = (false, player) := by
        simp [start, coherent.started]
      simp only [respond, refused]
      exact coherent.refused rested _ _
  | advance => exact coherent.comes_advance rested
  | choose choiceId => exact coherent.comes_choose rested choiceId
  | restart => exact coherent.comes_restart rested
  | startTyping => exact coherent.comes_startTyping rested
  | skipTyping => exact coherent.comes_skipTyping rested _
  | update time =>
      obtain ⟨begun, following, after, ticks, rested⟩ :=
        coherent.drain (le_max_left player.timeline.now time)
      exact ⟨begun, following, after, rested, .ticks ticks⟩
  | flush limit =>
      obtain ⟨begun, following, after, ticks, rested⟩ := coherent.flush limit 0 rested
      exact ⟨begun, following, after, rested, .ticks ticks⟩
  | toggleMute | close | stop | cancelTimers | later | setMuted | frame | statistics | isClosed
  | gesture => exact coherent.refused rested _ _

theorem Leaves.respond {made : Request κ} {target : Int} {ready : Player κ}
    (leaves : player.Leaves made target ready) (started : player.started = true)
    (unfinished : player.position.finished = false)
    (still : player.position.transitioning = false) :
    player.respond made = (.flag true, ready.beginTransition target) := by
  cases leaves with
  | advance ended last further =>
      unfold hasNextLine at last
      simp [Player.respond, Player.advance, started, unfinished, still, ended.revealed,
        ended.noMenu, last, further]
  | choose line chosen led =>
      simp [Player.respond, Player.choose, started, unfinished, still, line, chosen, led]

theorem Ended.advance_line (ended : player.Ended) (started : player.started = true)
    (more : player.hasNextLine = true) : player.advance = (true, player.nextLine.enterDialogue) := by
  unfold hasNextLine at more
  simp [Player.advance, started, ended.unfinished, ended.still, ended.revealed, ended.noMenu, more]

theorem Ended.advance_finish (ended : player.Ended) (started : player.started = true)
    (last : player.hasNextLine = false)
    (further : ¬ player.position.scene + 1 < player.novel.scenes.length) :
    player.advance = (true, player.finish) := by
  unfold hasNextLine at last
  simp [Player.advance, started, ended.unfinished, ended.still, ended.revealed, ended.noMenu, last,
    further]

theorem refuses_of_transitioning (transitioning : player.position.transitioning = true) :
    (player.respond .advance).1 = .flag false ∧
      ∀ choiceId, (player.respond (.choose choiceId)).1 = .flag false := by
  constructor
  · simp [respond, advance, transitioning]
  · intro choiceId
    simp [respond, choose, transitioning]

/-! ## The novel and the timings stay -/

/-- No request changes the novel or the timings. -/
theorem Turned.constant {made : Request κ} {answer : Answer}
    (turned : player.Turned phase made answer next following) :
    next.novel = player.novel ∧ next.timings = player.timings := by
  cases turned with
  | types types => exact ⟨types.stays.novel, types.stays.timings⟩
  | ticks ticks => exact ticks.constant
  | line _ _ stays _ => exact ⟨stays.novel, stays.timings⟩
  | leaves _ _ leaves departs =>
      have same := leaves.constant
      cases departs with
      | wait _ _ _ next =>
          rw [next]
          exact same
      | arrive _ arrives =>
          exact ⟨arrives.novel.trans same.1, arrives.timings.trans same.2⟩
  | finishes _ _ _ => exact ⟨rfl, rfl⟩
  | restarts _ stays _ => exact ⟨stays.novel, stays.timings⟩

/-! ## Players that have not started -/

theorem Unstarted.takeDue (unstarted : player.Unstarted) (time : Int) :
    player.timeline.takeDue? time = none := by
  have idle : player.timeline.pending = [] := List.Perm.eq_nil unstarted.waits.pending
  unfold Timeline.takeDue?
  rw [idle]

theorem Unstarted.nextDue (unstarted : player.Unstarted) :
    player.timeline.nextDue? = none := by
  have idle : player.timeline.pending = [] := List.Perm.eq_nil unstarted.waits.pending
  unfold Timeline.nextDue?
  rw [idle]
  rfl

theorem Unstarted.settle (unstarted : player.Unstarted) (time : Int) :
    (player.settle time).Unstarted :=
  ⟨unstarted.started, unstarted.position,
    unstarted.waits.orderly.settle (unstarted.takeDue time), unstarted.waits.pending,
    unstarted.waits.striking, unstarted.waits.phasing, unstarted.waits.strikes⟩

theorem Unstarted.typeLine (unstarted : player.Unstarted) : player.typeLine? = none := by
  cases typed : player.typeLine? with
  | none => rfl
  | some next =>
      obtain ⟨_, _, started, _⟩ := typeLine?_eq_some typed
      exact absurd (unstarted.started.symm.trans started) Bool.false_ne_true

/-- A player that has not started goes on only by starting, with the first scene. -/
theorem Unstarted.comes (unstarted : player.Unstarted) (made : Request κ) :
    (∃ time, (player.respond made).2 = player.settle time) ∨
      made = .start ∧ player.novel.scenes.isEmpty = false ∧
        (player.respond made).2 = ({ player with started := true } : Player κ).enterScene := by
  have started := unstarted.started
  have same : ∃ time, player = player.settle time := ⟨player.now, rfl⟩
  cases made with
  | start =>
      cases empty : player.novel.scenes.isEmpty with
      | true => exact .inl (by simpa [respond, Player.start, empty] using same)
      | false => exact .inr ⟨rfl, rfl, by simp [respond, Player.start, empty, started]⟩
  | advance => exact .inl (by simpa [respond, advance, started] using same)
  | choose choiceId => exact .inl (by simpa [respond, choose, started] using same)
  | restart => exact .inl (by simpa [respond, restart, started] using same)
  | startTyping => exact .inl (by simpa [respond, startTyping, unstarted.typeLine] using same)
  | skipTyping => exact .inl (by simpa [respond, skipTyping, skip?, started] using same)
  | update time =>
      exact .inl ⟨max player.timeline.now time, by
        simp only [respond, drain_idle (unstarted.takeDue _)]⟩
  | flush limit =>
      left
      by_cases enough : limit ≤ (0 : Nat)
      · simpa only [respond, flush_enough enough] using same
      · simpa only [respond, flush_idle enough unstarted.nextDue] using same
  | toggleMute | close | stop | cancelTimers | later | setMuted | frame | statistics | isClosed
  | gesture => exact .inl same

/-! ## Timers of a player -/

inductive Valid (player : Player κ) : Prop where
  | unstarted : player.Unstarted → Valid player
  | coherent {strike phase : Option (Timer (Alarm κ))} : player.Coherent strike phase →
      Valid player

theorem Valid.ticking (valid : player.Valid) : player.timeline.closed = false := by
  cases valid with
  | unstarted unstarted => exact unstarted.waits.orderly.isOpen
  | coherent coherent => exact coherent.lined.waits.orderly.isOpen

/-- The timers of a player are its own, and leave it valid when they go off. -/
theorem Valid.fire {time : Int} {timer : Timer (Alarm κ)} {timeline : Timeline (Alarm κ)}
    (valid : player.Valid) (taken : player.timeline.takeDue? time = some (timer, timeline)) :
    (∀ cue, timer.payload ≠ .ring cue) ∧
      (({ player with timeline } : Player κ).ring timer).Valid := by
  cases valid with
  | unstarted unstarted =>
      rw [unstarted.takeDue] at taken
      contradiction
  | coherent coherent =>
      obtain ⟨_, _, after, _⟩ := coherent.fire taken
      exact ⟨coherent.payload_ne_ring taken, .coherent after⟩

theorem Valid.drain {time : Int} (valid : player.Valid) (ahead : player.now ≤ time) :
    (drain time player).2.Valid := by
  cases valid with
  | unstarted unstarted =>
      rw [drain_idle (unstarted.takeDue time)]
      exact .unstarted (unstarted.settle time)
  | coherent coherent =>
      obtain ⟨_, _, after, _⟩ := coherent.drain ahead
      exact .coherent after

end VisualNovel.Playback.Player
