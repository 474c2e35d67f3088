import VisualNovel.Proofs.Playback.Sealing

/-!
# The sound changes nothing

What a session plays does not depend on its sound: neither on its device, whatever
that refuses, nor on the volumes, nor on who mutes it when. Two sessions of one
novel of which the same is asked give the same answers, tell the same events and
look the same, as far as more than the sound is concerned.
-/

set_option autoImplicit false

namespace VisualNovel.Playback

open VisualNovel.Agenda VisualNovel.Clock VisualNovel.Event VisualNovel.Novel VisualNovel.Sound

variable {β γ κ η θ : Type}

def Request.isShared : Request κ → Bool
  | .toggleMute | .setMuted _ | .frame | .statistics | .isClosed => false
  | _ => true

private theorem Request.isShared_of_asked {made : Request κ} (asked : made.Plays ∨ made = .close) :
    made.isShared = true := by
  rcases asked with plays | rfl
  · cases made <;> first | rfl | contradiction
  · rfl

private theorem Request.isShared_of_quiet {made : Request κ} (quiet : made.Quiet) :
    made.isShared = false := by
  cases made <;> first | rfl | contradiction

inductive Act (κ : Type) where
  | asks (made : Request κ)
  | listens (name : String) (cue : κ)

def Act.shared? : Act κ → Option (Request κ)
  | .asks made => if made.isShared then some made else none
  | .listens _ _ => none

def Act.Allowed : Act κ → Prop
  | .asks made => made.Plays ∨ made = .close ∨ made.Quiet
  | .listens _ _ => True

/-- What a session looks like, whatever becomes of its sound. -/
structure Outlook (κ : Type) where
  position : Position
  timeline : Timeline (Alarm κ)
  frame : Frame
  started : Bool
  closed : Bool

structure Outcome (κ : Type) where
  made : Request κ
  before : Outlook κ
  sights : List Sight
  answer : Answer
  after : Outlook κ

namespace Session

def outlook (session : Session β κ η) : Outlook κ where
  position := session.world.position
  timeline := session.timeline
  frame := { session.world.frame with muted := false }
  started := session.world.started
  closed := session.world.closed

/-- What is done with a session, one after another, and the turns that come of it. -/
inductive Attends [Device β] [DecidableEq κ] (callbacks : Callbacks κ η) :
    Session β κ η → List (Act κ) → List (Turn β κ η) → Session β κ η → Prop where
  | nil {session : Session β κ η} : Attends callbacks session [] [] session
  | asks {before after last : Session β κ η} {made : Request κ} {sights : List Sight}
      {answer : Answer} {acts : List (Act κ)} {turns : List (Turn β κ η)} :
      Performs callbacks before made sights answer after →
      Attends callbacks after acts turns last →
      Attends callbacks before (.asks made :: acts)
        (⟨before, made, sights, answer, after⟩ :: turns) last
  | listens {session last : Session β κ η} {name : String} {cue : κ} {acts : List (Act κ)}
      {turns : List (Turn β κ η)} :
      Attends callbacks (session.listen name cue) acts turns last →
      Attends callbacks session (.listens name cue :: acts) turns last

end Session

def Turn.outcome (turn : Turn β κ η) : Outcome κ where
  made := turn.made
  before := turn.before.outlook
  sights := turn.sights
  answer := turn.answer
  after := turn.after.outlook

def outcomesIn (turns : List (Turn β κ η)) : List (Outcome κ) :=
  (turns.filter fun turn => turn.made.isShared).map Turn.outcome

private theorem outcomesIn_shared {turn : Turn β κ η} (shared : turn.made.isShared = true)
    (turns : List (Turn β κ η)) :
    outcomesIn (turn :: turns) = turn.outcome :: outcomesIn turns := by
  simp [outcomesIn, shared]

private theorem outcomesIn_aside {turn : Turn β κ η} (aside : turn.made.isShared = false)
    (turns : List (Turn β κ η)) : outcomesIn (turn :: turns) = outcomesIn turns := by
  simp [outcomesIn, aside]

/-! ## Players that are closed -/

def Player.close (player : Player κ) : Player κ :=
  let halted := player.stopTyping.cancelTransition
  ({ halted with timeline := halted.timeline.close }).emit .closed

def Request.refusal : Request κ → Answer
  | .update _ | .flush _ => .count 0
  | .close => .nothing
  | _ => .flag false

structure Showing (κ : Type) where
  player : Player κ
  closed : Bool

namespace Showing

def meet (made : Request κ) : Showing κ → Answer × Showing κ
  | ⟨player, true⟩ => (made.refusal, ⟨player, true⟩)
  | ⟨player, false⟩ =>
      match made with
      | .close => (.nothing, ⟨player.close, true⟩)
      | made => ((player.respond made).1, ⟨(player.respond made).2, false⟩)

def outlook (showing : Showing κ) : Outlook κ where
  position := showing.player.position
  timeline := showing.player.timeline
  frame := compose showing.player.novel showing.player.position false
  started := showing.player.started
  closed := showing.closed

end Showing

namespace Session

/-- A session that has told certain events presents what it shows. -/
inductive Presents (session : Session β κ η) (seen : List Sight) : Showing κ → Prop where
  | playing : session.Stands seen → Presents session seen ⟨session.player seen, false⟩
  | closed : session.Retired → Presents session seen ⟨session.player seen, true⟩

variable {session before after next : Session β κ η} {seen sights : List Sight}
  {showing : Showing κ} {made : Request κ} {answer : Answer}

theorem Presents.outlook_eq (presents : session.Presents seen showing) :
    session.outlook = showing.outlook := by
  have unmuted : { session.world.frame with muted := false } =
      compose session.world.novel session.world.position false := by
    unfold Stage.frame compose
    split <;> rfl
  cases presents with
  | playing stands =>
      unfold Session.outlook Showing.outlook
      rw [unmuted, stands.isOpen]
      rfl
  | closed retired =>
      unfold Session.outlook Showing.outlook
      rw [unmuted, retired.closed]
      rfl

theorem Presents.alike (presents : session.Presents seen showing) (alike : next.Alike session) :
    next.Presents seen showing := by
  have same := alike.player_eq seen
  cases presents with
  | playing stands =>
      rw [← same]
      refine .playing ⟨alike.closed.trans stands.isOpen, alike.stopped.trans stands.playing, ?_⟩
      rw [same]
      exact stands.resting
  | closed retired =>
      have timeline : next.timeline = session.timeline := congrArg Player.timeline same
      rw [← same]
      exact .closed ⟨alike.closed.trans retired.closed, alike.stopped.trans retired.stopped,
        timeline ▸ retired.shut⟩

variable [Device β] [DecidableEq κ] {callbacks : Callbacks κ η} {last : Session β κ η}
  {acts : List (Act κ)} {turns : List (Turn β κ η)}

private theorem player_close (isOpen : session.world.closed = false)
    (playing : session.world.stopped = false) :
    (((close session).1).player seen).emit .closed = (session.player seen).close := by
  unfold close
  rw [if_neg (by simp [isOpen])]
  unfold closeSound stopPlayer withStage
  dsimp only
  rw [if_neg (by simp [playing])]
  split <;> rfl

private theorem retired_close (isOpen : session.world.closed = false) :
    (close session).1.Retired := by
  obtain ⟨_, closed, stopped, _⟩ := tends_stopPlayer
    (withStage session fun stage => { stage with closed := true })
  unfold close
  rw [if_neg (by simp [isOpen])]
  obtain ⟨timeline, sameClosed, sameStopped, _⟩ := closeSound_same
    { (stopPlayer (withStage session fun stage => { stage with closed := true })).2 with
      timeline := (stopPlayer (withStage session fun stage =>
        { stage with closed := true })).2.timeline.close }
  exact ⟨sameClosed.trans closed, sameStopped.trans stopped, congrArg Timeline.closed timeline⟩

/-- A session that is closed tells so, and refuses everything afterwards. -/
theorem Stands.closes (stands : before.Stands seen) (quiet : callbacks.Quiet) :
    ∃ sights after, Performs callbacks before .close sights .nothing after ∧
      after.Retired ∧ after.player (sights.reverse ++ seen) = (before.player seen).close := by
  have retired := retired_close stands.isOpen
  obtain ⟨told, delivered, alike⟩ := overheard_deliveries quiet .closed
    ((close before).1.world.bus.heard "session.close") (emit (close before).1 .closed).1
  let left := reply (withStage told fun stage => { stage with bus := stage.bus.clear }) .nothing
  have same : left.Alike (close before).1 := ⟨alike.player, alike.closed, alike.stopped⟩
  have closes : Completes sighting (clockwork callbacks).step
      ([.work (.emit .closed), .work .forgetListeners, .work (.reply .nothing)] ++ [])
      (close before).1
      [⟨(close before).1.timeline.now, .closed, (close before).1.world.position⟩] left :=
    .cons (delivered.append (.cons (.cons .nil)))
  have performed := Completes.of_step (step_close callbacks stands.isOpen) closes
  refine ⟨_, left, performs_iff.mpr ⟨performed, rfl⟩, ?_, ?_⟩
  · have timeline : left.timeline = (close before).1.timeline := congrArg Player.timeline same.player
    exact ⟨same.closed.trans retired.closed, same.stopped.trans retired.stopped,
      timeline ▸ retired.shut⟩
  · rw [← player_close stands.isOpen stands.playing, same.player_eq]
    rfl

/-- A closed session answers everything at once, and stays as it is. -/
theorem Retired.answers (retired : before.Retired) (asked : made.Plays ∨ made = .close) :
    ∃ after, Performs callbacks before made [] made.refusal after ∧ after.Alike before := by
  have refuses {move : Move β κ η} (moves : made.move? before = some move) :
      Completes sighting (clockwork callbacks).step [.work (.request made)] before []
        (before.reply (.flag false)) :=
    .of_step (retired.refuses moves) (.cons .nil)
  have still : (before.reply (.flag false)).Alike before := ⟨rfl, rfl, rfl⟩
  rcases asked with plays | rfl
  · cases made with
    | start | advance | choose | restart | startTyping | skipTyping =>
        exact ⟨_, performs_iff.mpr ⟨refuses rfl, rfl⟩, still⟩
    | update time =>
        refine ⟨before.reply (.count 0), performs_iff.mpr ⟨.cons ?_, rfl⟩, rfl, rfl, rfl⟩
        simp only [Clockwork.step, clockwork, act, begin, retired.closed, if_true]
        exact .nil
    | flush limit =>
        have stood : (clockwork callbacks).step (.flush limit 0) before =
            ({ before with ran := 0 }, []) := by
          simp [Clockwork.step, retired.shut]
        have counted : Completes sighting (clockwork callbacks).step
            [.flush limit 0, .work .replyCount] before []
            (reply { before with ran := 0 } (.count 0)) :=
          .of_step stood (.cons .nil)
        exact ⟨_, performs_iff.mpr ⟨.cons counted, rfl⟩, rfl, rfl, rfl⟩
    | toggleMute | close | stop | cancelTimers | later | setMuted | frame | statistics | isClosed
    | gesture => contradiction
  · refine ⟨before.reply .nothing, performs_iff.mpr ⟨.cons ?_, rfl⟩, rfl, rfl, rfl⟩
    simp only [Clockwork.step, clockwork, act, begin, close, retired.closed, if_true]
    exact .cons .nil

/-- What more than the sound is asked for is answered as by what is shown. -/
theorem Presents.meets (presents : before.Presents seen showing) (quiet : callbacks.Quiet)
    (asked : made.Plays ∨ made = .close) :
    ∃ sights after, Performs callbacks before made sights (showing.meet made).1 after ∧
      after.Presents (sights.reverse ++ seen) (showing.meet made).2 ∧
      (showing.meet made).2.player.seen = sights.reverse ++ showing.player.seen := by
  cases presents with
  | closed retired =>
      obtain ⟨after, performs, alike⟩ := retired.answers asked
      exact ⟨[], after, performs, Presents.alike (.closed retired) alike, rfl⟩
  | playing stands =>
      rcases asked with plays | rfl
      · have meets : Showing.meet made ⟨before.player seen, false⟩ =
            (((before.player seen).respond made).1, ⟨((before.player seen).respond made).2, false⟩) := by
          cases made <;> first | rfl | contradiction
        obtain ⟨sights, after, performs, shows, told⟩ := stands.responds quiet plays
        obtain ⟨same, standsToo⟩ := stands.turn quiet (.inl plays) performs
        rw [meets]
        refine ⟨sights, after, performs, ?_, told⟩
        rw [← same]
        exact .playing standsToo
      · obtain ⟨sights, after, performs, retired, closed⟩ := stands.closes quiet
        refine ⟨sights, after, performs, ?_, ?_⟩
        · show after.Presents _ ⟨(before.player seen).close, true⟩
          rw [← closed]
          exact .closed retired
        · show (before.player seen).close.seen = _
          rw [← closed]
          rfl

theorem Presents.aside (presents : before.Presents seen showing) (quiet : made.Quiet) :
    ∃ answer after, Performs callbacks before made [] answer after ∧ after.Presents seen showing := by
  obtain ⟨after, completes, alike⟩ := overheard_quiet quiet before
  exact ⟨_, after, performs_iff.mpr ⟨completes, rfl⟩, presents.alike alike⟩

end Session

namespace Showing

def told (before after : Showing κ) : List Sight :=
  (after.player.seen.take (after.player.seen.length - before.player.seen.length)).reverse

def outcomes : List (Request κ) → Showing κ → List (Outcome κ) × Showing κ
  | [], showing => ([], showing)
  | made :: requests, showing =>
      let (answer, next) := showing.meet made
      let (rest, last) := outcomes requests next
      (⟨made, showing.outlook, told showing next, answer, next.outlook⟩ :: rest, last)

private theorem told_eq {before after : Showing κ} {sights : List Sight}
    (tells : after.player.seen = sights.reverse ++ before.player.seen) :
    told before after = sights := by
  unfold told
  rw [tells, List.length_append, Nat.add_sub_cancel, List.take_left, List.reverse_reverse]

end Showing

namespace Session

variable [Device β] [DecidableEq κ] {callbacks : Callbacks κ η} {session last : Session β κ η}
  {seen : List Sight} {showing : Showing κ} {acts : List (Act κ)} {turns : List (Turn β κ η)}

/-- What is done with a session comes to what its player makes of the requests that are shared. -/
theorem Presents.attends (presents : session.Presents seen showing) (quiet : callbacks.Quiet)
    (allowed : ∀ act ∈ acts, act.Allowed) :
    ∃ turns last, Attends callbacks session acts turns last ∧
      outcomesIn turns = (showing.outcomes (acts.filterMap Act.shared?)).1 ∧
      seenIn turns = (outcomesIn turns).flatMap Outcome.sights ∧
      last.outlook = (showing.outcomes (acts.filterMap Act.shared?)).2.outlook := by
  induction acts generalizing session seen showing with
  | nil => exact ⟨[], session, .nil, rfl, rfl, presents.outlook_eq⟩
  | cons act acts hypothesis =>
      have later := fun other member => allowed other (List.mem_cons_of_mem _ member)
      cases act with
      | listens name cue =>
          have listening : (session.listen name cue).Presents seen showing :=
            presents.alike ⟨rfl, rfl, rfl⟩
          obtain ⟨turns, last, attends, rest⟩ := hypothesis listening later
          exact ⟨turns, last, .listens attends, rest⟩
      | asks made =>
          rcases or_assoc.mpr (allowed _ List.mem_cons_self) with asked | aside
          · obtain ⟨sights, after, performs, next, tells⟩ := presents.meets quiet asked
            obtain ⟨turns, last, attends, outcomes, told, outlook⟩ := hypothesis next later
            have shared := Request.isShared_of_asked asked
            have requests : (Act.asks made :: acts).filterMap Act.shared? =
                made :: acts.filterMap Act.shared? :=
              List.filterMap_cons_some (by simp [Act.shared?, shared])
            rw [requests]
            refine ⟨_, last, .asks performs attends, ?_, ?_, outlook⟩
            · rw [outcomesIn_shared shared, outcomes]
              simp only [Showing.outcomes, Showing.told_eq tells, Turn.outcome,
                presents.outlook_eq, next.outlook_eq]
            · rw [outcomesIn_shared shared, List.flatMap_cons, ← told]
              rfl
          · obtain ⟨answer, after, performs, next⟩ := presents.aside aside
            obtain ⟨turns, last, attends, outcomes, told, outlook⟩ := hypothesis next later
            have shared := Request.isShared_of_quiet aside
            have requests : (Act.asks made :: acts).filterMap Act.shared? =
                acts.filterMap Act.shared? :=
              List.filterMap_cons_none (by simp [Act.shared?, shared])
            rw [requests]
            refine ⟨_, last, .asks performs attends, ?_, ?_, outlook⟩
            · rw [outcomesIn_aside shared, outcomes]
            · rw [outcomesIn_aside shared, ← told]
              rfl

/-- What comes of a session is determined by what is done with it. -/
theorem Attends.unique {moreTurns : List (Turn β κ η)} {other : Session β κ η}
    (attends : Attends callbacks session acts turns last)
    (again : Attends callbacks session acts moreTurns other) :
    turns = moreTurns ∧ last = other := by
  induction attends generalizing moreTurns other with
  | nil =>
      cases again with
      | nil => exact ⟨rfl, rfl⟩
  | asks performs _ hypothesis =>
      cases again with
      | asks performsToo rest =>
          obtain ⟨rfl, rfl, rfl⟩ := performs.unique performsToo
          obtain ⟨rfl, rfl⟩ := hypothesis rest
          exact ⟨rfl, rfl⟩
  | listens _ hypothesis =>
      cases again with
      | listens rest => exact hypothesis rest

/-- Of two sessions of one novel the same is asked, but for what is about the sound, and what
listens makes no moves. Whatever becomes of the sound, both do all of it, give the same
answers, tell the same events and look the same. -/
theorem plays_whatever_sounds [Device γ] (novel : Novel) (preferences others : Preferences)
    (device : β) (other : γ) (now : Int) (notes : η) (further : θ) {callbacks : Callbacks κ η}
    {listeners : Callbacks κ θ} {acts more : List (Act κ)}
    (timings : preferences.timings = others.timings)
    (interval : preferences.typingInterval = others.typingInterval)
    (quiet : callbacks.Quiet) (quietToo : listeners.Quiet)
    (allowed : ∀ act ∈ acts, act.Allowed) (allowedToo : ∀ act ∈ more, act.Allowed)
    (same : acts.filterMap Act.shared? = more.filterMap Act.shared?) :
    (∃ turns last, Attends callbacks (new novel preferences device now notes) acts turns last) ∧
    (∃ turns last, Attends listeners (new novel others other now further) more turns last) ∧
    ∀ turns last again final,
      Attends callbacks (new novel preferences device now notes) acts turns last →
      Attends listeners (new novel others other now further) more again final →
      outcomesIn turns = outcomesIn again ∧ seenIn turns = seenIn again ∧
        last.outlook = final.outlook := by
  have players : (new novel preferences device now notes : Session β κ η).player [] =
      (new novel others other now further : Session γ κ θ).player [] := by
    unfold Session.player
    simp only [new, attachSound, withStage, timings, interval]
  have presents : (new novel preferences device now notes : Session β κ η).Presents [] _ :=
    .playing (fresh_new novel preferences device now notes).stands
  have presentsToo : (new novel others other now further : Session γ κ θ).Presents [] _ :=
    .playing (fresh_new novel others other now further).stands
  rw [← players] at presentsToo
  obtain ⟨turns, last, attends, outcomes, told, outlook⟩ := presents.attends quiet allowed
  obtain ⟨again, final, attendsToo, outcomesToo, toldToo, outlookToo⟩ :=
    presentsToo.attends quietToo allowedToo
  refine ⟨⟨turns, last, attends⟩, ⟨again, final, attendsToo⟩, ?_⟩
  intro _ _ _ _ attended attendedToo
  obtain ⟨rfl, rfl⟩ := attends.unique attended
  obtain ⟨rfl, rfl⟩ := attendsToo.unique attendedToo
  have agree : outcomesIn turns = outcomesIn again := by rw [outcomes, outcomesToo, same]
  refine ⟨agree, ?_, ?_⟩
  · rw [told, toldToo, agree]
  · rw [outlook, outlookToo, same]

end Session

namespace Sample

def refusing : Rehearsal where
  refusal _ _ := some "no sound"

def hushed : List (Act String) :=
  [.asks .start, .asks .toggleMute, .asks (.update 200), .asks .advance, .asks .close]

def minded : List (Act String) :=
  [.listens "dialogue.enter" "mute", .asks .start, .asks (.update 200), .asks .advance,
    .asks .close]

end Sample

namespace Session

open Sample

theorem plays_whatever_sounds_refused :
    nobody.Quiet ∧ (asking .toggleMute).Quiet ∧ (∀ act ∈ hushed, act.Allowed) ∧
      (∀ act ∈ minded, act.Allowed) ∧
      hushed.filterMap Act.shared? = minded.filterMap Act.shared? ∧
      ∃ turns last again final,
        Attends nobody (new serenade {} Rehearsal.willing 0 ()) hushed turns last ∧
        Attends (asking .toggleMute) (new serenade { muted := true } refusing 0 ()) minded again
          final ∧
        (outcomesIn turns).map Outcome.answer = [.flag true, .count 5, .flag true, .nothing] ∧
        outcomesIn turns = outcomesIn again ∧ seenIn turns = seenIn again ∧
        last.outlook = final.outlook := by
  have quiet : nobody.Quiet := nobody_quiet
  have quietToo : (asking .toggleMute).Quiet := fun _ _ => ⟨trivial, fun _ => trivial⟩
  have allowed : ∀ act ∈ hushed, act.Allowed := by
    simp [hushed, Act.Allowed, Request.Plays, Request.Quiet]
  have allowedToo : ∀ act ∈ minded, act.Allowed := by
    simp [minded, Act.Allowed, Request.Plays, Request.Quiet]
  refine ⟨quiet, quietToo, allowed, allowedToo, rfl, ?_⟩
  have attends : Attends nobody (new serenade {} Rehearsal.willing 0 ()) hushed _ _ :=
    .asks ⟨60, rfl, rfl⟩ (.asks ⟨60, rfl, rfl⟩ (.asks ⟨60, rfl, rfl⟩ (.asks ⟨60, rfl, rfl⟩
      (.asks ⟨60, rfl, rfl⟩ .nil))))
  obtain ⟨_, ⟨again, final, attendsToo⟩, agree⟩ :=
    plays_whatever_sounds serenade {} { muted := true } Rehearsal.willing refusing 0 () () rfl rfl
      quiet quietToo allowed allowedToo rfl
  exact ⟨_, _, again, final, attends, attendsToo, rfl, agree _ _ _ _ attends attendsToo⟩

end Session

end VisualNovel.Playback
