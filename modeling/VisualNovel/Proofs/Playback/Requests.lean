import VisualNovel.Proofs.Clock.Draining
import VisualNovel.Proofs.Playback.Player.Turns
import VisualNovel.Proofs.Playback.Simulation

/-!
# Requests are performed

Every request that plays is performed to its end, and gives what the player of the
session responds in direct style. This includes moving the clock on, however many
timers go off.
-/

set_option autoImplicit false

namespace VisualNovel.Playback.Session

open VisualNovel.Agenda VisualNovel.Clock VisualNovel.Sound VisualNovel.Novel

variable {β κ η : Type} [Device β] [DecidableEq κ] {callbacks : Callbacks κ η}
  {session : Session β κ η} {player next : Player κ} {seen : List Sight}

def Gives (answer : Answer) (final : Session β κ η) : Prop :=
  final.world.answer = answer

theorem Shows.refuse (shows : session.Shows player) :
    Moves callbacks session.refuse player.seen player (Gives (.flag false)) :=
  carries_reply (.flag false) session shows

theorem Moves.reply {move : Move β κ η} (moves : Moves callbacks move seen next)
    (answer : Answer) :
    Moves callbacks (move.1, move.2 ++ [.reply answer]) seen next (Gives answer) := by
  unfold Moves
  rw [List.map_append]
  exact Leads.append moves (carries_reply answer)

/-! ## Starting and typing -/

/-- A session starts as its player does. -/
theorem carries_start (quiet : callbacks.Quiet) :
    Carries β callbacks [.work (.request .start)] player player.start.2
      (Gives (.flag player.start.1)) := by
  refine carries_task (fun _ => rfl) (fun _ => rfl) ?_
  intro session shows
  rw [shows.whenOpen]
  obtain ⟨isOpen, playing, told, rfl⟩ := shows
  unfold Session.start Player.start
  dsimp only
  have started : (session.player told).started = session.world.started := rfl
  have novel : (session.player told).novel = session.world.novel := rfl
  rw [playing, Bool.false_or, started, novel]
  cases session.world.started with
  | true => exact Shows.refuse ⟨isOpen, playing, told, rfl⟩
  | false =>
      cases session.world.novel.scenes.isEmpty with
      | true => exact Shows.refuse ⟨isOpen, playing, told, rfl⟩
      | false =>
          exact ((carries_enterScene quiet).cons (carries_reply _)) _ ⟨isOpen, playing, told, rfl⟩

private theorem carries_startTyping (quiet : callbacks.Quiet) :
    Carries β callbacks [.work (.request .startTyping)] player player.startTyping.2
      (Gives (.flag player.startTyping.1)) := by
  refine carries_task (fun _ => rfl) (fun _ => rfl) ?_
  intro session shows
  unfold Session.startTyping Player.startTyping
  rcases shows.typeLine? quiet with ⟨none, noneToo⟩ | ⟨move, next, some, someToo, moves⟩
  · rw [none, noneToo]
    exact shows.refuse
  · rw [some, someToo]
    exact moves.reply _

theorem Shows.skipTyping (shows : session.Shows player) (quiet : callbacks.Quiet) :
    Moves callbacks session.skipTyping player.seen player.skipTyping.2
      (Gives (.flag player.skipTyping.1)) := by
  have active := shows.isActive
  obtain ⟨isOpen, playing, told, rfl⟩ := shows
  unfold Session.skipTyping Player.skipTyping Player.skip?
  dsimp only
  rw [active]
  have typing : (session.player told).position.isTyping = session.world.position.isTyping := rfl
  have typewriter : (session.player told).typewriter.skip? (session.player told).timeline =
      session.world.typewriter.skip? session.timeline := rfl
  rw [typing, typewriter]
  split
  · cases session.world.typewriter.skip? session.timeline with
    | none => exact Shows.refuse ⟨isOpen, playing, told, rfl⟩
    | some skipped =>
        obtain ⟨signal, typed⟩ := skipped
        have shows : (session.withTyped typed).Shows ((session.player told).withTyped typed) :=
          ⟨isOpen, playing, told, rfl⟩
        exact (shows.heed quiet (tidy_singleton signal)).reply _
  · exact Shows.refuse ⟨isOpen, playing, told, rfl⟩

private theorem carries_skipTyping (quiet : callbacks.Quiet) :
    Carries β callbacks [.work (.request .skipTyping)] player player.skipTyping.2
      (Gives (.flag player.skipTyping.1)) :=
  carries_task (fun _ => rfl) (fun _ => rfl) fun _ shows => shows.skipTyping quiet

/-! ## Moves -/

theorem Shows.finish (shows : session.Shows player) (quiet : callbacks.Quiet) :
    Moves callbacks session.finish player.seen player.finish (Gives (.flag true)) := by
  obtain ⟨isOpen, playing, told, rfl⟩ := shows
  exact ((carries_emit quiet _).cons (carries_reply _)) _ ⟨isOpen, playing, told, rfl⟩

/-- A session goes on as its player does. -/
private theorem carries_advance (quiet : callbacks.Quiet) :
    Carries β callbacks [.work (.request .advance)] player player.advance.2
      (Gives (.flag player.advance.1)) := by
  refine carries_task (fun _ => rfl) (fun _ => rfl) ?_
  intro session shows
  rw [shows.whenOpen]
  have active := shows.isActive
  have skips := shows.skipTyping quiet
  have finishes := shows.finish quiet
  obtain ⟨isOpen, playing, told, rfl⟩ := shows
  have shows : session.Shows (session.player told) := ⟨isOpen, playing, told, rfl⟩
  have position : (session.player told).position = session.world.position := rfl
  have line : (session.player told).dialogue? = session.world.dialogue? := rfl
  have scene : (session.player told).scene? = session.world.scene? := rfl
  have novel : (session.player told).novel = session.world.novel := rfl
  unfold Session.advance Player.advance
  dsimp only
  rw [active, position, line, scene, novel]
  split
  · exact shows.refuse
  split
  · exact skips
  split
  · exact shows.refuse
  split
  · exact ((carries_enterDialogue quiet).cons (carries_reply _)) _ ⟨isOpen, playing, told, rfl⟩
  split
  · exact ((carries_beginTransition quiet _).cons (carries_reply _)) _ shows
  · exact finishes

/-- A session follows a choice as its player does. -/
theorem carries_choose (quiet : callbacks.Quiet) (choiceId : String) :
    Carries β callbacks [.work (.request (.choose choiceId))] player (player.choose choiceId).2
      (Gives (.flag (player.choose choiceId).1)) := by
  refine carries_task (fun _ => rfl) (fun _ => rfl) ?_
  intro session shows
  rw [shows.whenOpen]
  have active := shows.isActive
  obtain ⟨isOpen, playing, told, rfl⟩ := shows
  have shows : session.Shows (session.player told) := ⟨isOpen, playing, told, rfl⟩
  have position : (session.player told).position = session.world.position := rfl
  have line : (session.player told).dialogue? = session.world.dialogue? := rfl
  have novel : (session.player told).novel = session.world.novel := rfl
  unfold Session.choose Player.choose
  dsimp only
  rw [active, position, line, novel]
  split
  · exact shows.refuse
  cases session.world.dialogue?.bind fun dialogue => dialogue.choice? choiceId with
  | none => exact shows.refuse
  | some choice =>
      dsimp only
      cases session.world.novel.sceneIndex? choice.targetSceneId with
      | none => exact shows.refuse
      | some target =>
          exact ((carries_emit quiet _).cons
            ((carries_beginTransition quiet _).cons (carries_reply _))) _ shows

private theorem carries_restart (quiet : callbacks.Quiet) :
    Carries β callbacks [.work (.request .restart)] player player.restart.2
      (Gives (.flag player.restart.1)) := by
  refine carries_task (fun _ => rfl) (fun _ => rfl) ?_
  intro session shows
  rw [shows.whenOpen]
  have active := shows.isActive
  obtain ⟨isOpen, playing, told, rfl⟩ := shows
  have position : (session.player told).position = session.world.position := rfl
  unfold Session.restart Player.restart
  dsimp only
  rw [active, position]
  split
  · exact Shows.refuse ⟨isOpen, playing, told, rfl⟩
  · exact ((carries_emit quiet _).cons ((carries_enterScene quiet).cons (carries_reply _))) _
      ⟨isOpen, playing, told, rfl⟩

/-! ## The clock -/

theorem carries_ring (quiet : callbacks.Quiet) {timer : Timer (Alarm κ)}
    (own : ∀ cue, timer.payload ≠ .ring cue) :
    Carries β callbacks ((ring callbacks timer).map .work) player (player.ring timer) := by
  unfold Session.ring Player.ring
  cases payload : timer.payload with
  | strike generation => exact carries_strike quiet generation
  | commit generation target timing => exact carries_commit quiet generation target timing
  | clear generation => exact carries_clear quiet generation
  | ring cue => exact absurd payload (own cue)

def Ran (count : Nat) (final : Session β κ η) : Prop :=
  final.ran = count

private theorem carries_drained {time : Int} {ran : Nat} {post : Session β κ η → Prop}
    (ticking : player.timeline.closed = false)
    (drains : Carries β callbacks [.drain time ran] player next post) :
    Carries β callbacks [.drained time ran] player next post := by
  intro session shows
  apply Leads.cons
  rw [Clockwork.step_drained (shows.timeline ▸ ticking)]
  exact drains session shows

/-- The timers of a session go off as those of its player do. -/
private theorem carries_drain (quiet : callbacks.Quiet) (time : Int) (ran : Nat)
    (valid : player.Valid) :
    Carries β callbacks [.drain time ran] player (Player.drain time player).2
      (Ran (ran + (Player.drain time player).1)) := by
  induction player using Player.drain.induct time generalizing ran with
  | case1 player idle =>
      rw [Player.drain_idle idle]
      intro session shows
      apply Leads.cons
      rw [Clockwork.step_drain_idle (shows.timeline ▸ idle)]
      obtain ⟨isOpen, playing, told, rfl⟩ := shows
      exact ⟨[], _, .nil, ⟨isOpen, playing, told, rfl⟩, rfl, rfl⟩
  | case2 player timer timeline taken ih =>
      obtain ⟨own, after⟩ := valid.fire taken
      have drains := ih (ran + 1) after
      have count : ran + (Player.drain time player).1 =
          ran + 1 + (Player.drain time (({ player with timeline } : Player κ).ring timer)).1 := by
        rw [Player.drain_fire taken]
        dsimp only
        omega
      rw [count, Player.drain_fire taken]
      intro session shows
      apply Leads.cons
      rw [Clockwork.step_drain_fire (shows.timeline ▸ taken), List.append_nil]
      exact ((carries_ring quiet own).append (carries_drained after.ticking drains)) _
        (shows.withTimeline timeline)

theorem carries_update (quiet : callbacks.Quiet) (time : Int)
    (valid : player.Valid) :
    Carries β callbacks [.update time] player
      (Player.drain (max player.timeline.now time) player).2
      (Ran (Player.drain (max player.timeline.now time) player).1) := by
  have drains := carries_drain (β := β) quiet (max player.timeline.now time) 0 valid
  rw [Nat.zero_add] at drains
  intro session shows
  apply Leads.cons
  rw [Clockwork.step_update (shows.timeline ▸ valid.ticking), shows.timeline]
  exact drains session shows

/-- The clock of a session is moved from timer to timer as that of its player is. -/
private theorem carries_flush (quiet : callbacks.Quiet) (limit : Int) (ran : Nat)
    (valid : player.Valid) :
    Carries β callbacks [.flush limit ran] player (Player.flush limit ran player).2
      (Ran (Player.flush limit ran player).1) := by
  induction ran, player using Player.flush.induct limit with
  | case1 ran player enough =>
      rw [Player.flush_enough enough]
      intro session shows
      apply Leads.cons
      rw [Clockwork.step_flush_enough enough]
      obtain ⟨isOpen, playing, told, rfl⟩ := shows
      exact ⟨[], _, .nil, ⟨isOpen, playing, told, rfl⟩, rfl, rfl⟩
  | case2 ran player more idle =>
      rw [Player.flush_idle more idle]
      intro session shows
      apply Leads.cons
      rw [Clockwork.step_flush_idle (shows.timeline ▸ idle)]
      obtain ⟨isOpen, playing, told, rfl⟩ := shows
      exact ⟨[], _, .nil, ⟨isOpen, playing, told, rfl⟩, rfl, rfl⟩
  | case3 ran player more time due drained =>
      rename_i ih
      have flushes := ih (valid.drain (le_max_left player.timeline.now time))
      have updates := carries_update (β := β) quiet time valid
      rw [Player.flush_more more due]
      intro session shows
      apply Leads.cons
      rw [Clockwork.step_flush_more (shows.timeline ▸ valid.ticking) more (shows.timeline ▸ due)]
      refine (updates session shows).bind ?_
      intro state shows counted
      apply Leads.cons
      rw [Clockwork.step_flushed counted]
      exact flushes state shows

/-! ## Everything a player responds to -/

theorem carries_replyCount {count : Nat} {tasks : List (Job (Task κ η))}
    (counts : Carries β callbacks tasks player next (Ran count)) :
    Carries β callbacks (tasks ++ [.work .replyCount]) player next (Gives (.count count)) := by
  intro session shows
  refine (counts session shows).bind ?_
  intro state shows counted
  refine .work rfl ⟨[], _, .nil, ⟨shows.isOpen, shows.playing, shows.same⟩, rfl, ?_⟩
  exact congrArg Answer.count counted

/-- A request makes of a session what it makes of its player. -/
theorem carries_request {made : Request κ} (quiet : callbacks.Quiet) (plays : made.Plays)
    (valid : player.Valid) :
    Carries β callbacks [.work (.request made)] player (player.respond made).2
      (Gives (player.respond made).1) := by
  cases made with
  | start => exact carries_start quiet
  | advance => exact carries_advance quiet
  | choose choiceId => exact carries_choose quiet choiceId
  | restart => exact carries_restart quiet
  | startTyping => exact carries_startTyping quiet
  | skipTyping => exact carries_skipTyping quiet
  | update time =>
      have updates := carries_replyCount (carries_update (β := β) quiet time valid)
      intro session shows
      have begun : begin session (.update time) = (session, [.update time, .work .replyCount]) := by
        simp [begin, shows.isOpen]
      refine .work rfl ?_
      show Leads callbacks (begin session (.update time)).1
        ((begin session (.update time)).2 ++ []) _ _ _
      rw [begun]
      exact updates session shows
  | flush limit =>
      have flushes := carries_replyCount (carries_flush (β := β) quiet limit 0 valid)
      intro session shows
      exact .work rfl (flushes session shows)
  | toggleMute | close | stop | cancelTimers | later | setMuted | frame | statistics | isClosed
  | gesture => exact absurd plays id

end VisualNovel.Playback.Session
