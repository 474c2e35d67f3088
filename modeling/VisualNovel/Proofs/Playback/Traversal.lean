import VisualNovel.Proofs.Playback.Crossing
import VisualNovel.Proofs.Playback.Player.Landing

/-!
# The ways through a novel

A session moves in a novel by a few rules only: on to the next line, over to the
scene that a transition leads to, and back to the beginning. A transition may
bring the session there long after the request that decided so; what lies between
moves nothing.
-/

set_option autoImplicit false

namespace VisualNovel.Playback

open VisualNovel.Agenda VisualNovel.Clock VisualNovel.Sound VisualNovel.Novel

variable {β κ η : Type}

/-- A turn begins a transition, one alone, by leaving for a scene. -/
structure Turn.SetsOut (turn : Turn β κ η) (target : Int) : Prop where
  leaves : turn.before.SetsOut turn.made target
  succeeds : turn.answer = .flag true
  once : turn.sights.countP (fun sight => sight.event.begins) = 1

structure Turn.Lands (turn : Turn β κ η) (target : Int) : Prop where
  told : ∃ sight ∈ turn.sights, sight.event = .transitionCommit target
  place : turn.after.world.position.place = (target, 0)

def Turn.BeginsNone (turn : Turn β κ η) : Prop :=
  ∀ sight ∈ turn.sights, sight.event.begins = false

namespace Session

/-- After some turns, a transition is still to put its scene in place. It was begun by one of
them, and neither has anything moved nor has another transition begun since. -/
structure Awaits (turns : List (Turn β κ η)) (last : Session β κ η) (begun : Turn β κ η)
    (target : Int) : Prop where
  setsOut : begun.SetsOut target
  since : ∃ past later, turns = past ++ begun :: later ∧
    (∀ turn ∈ later, turn.BeginsNone) ∧
    ∀ turn ∈ begun :: later,
      turn.after.world.position.place = begun.before.world.position.place
  unmoved : last.world.position.place = begun.before.world.position.place

/-- A turn completes the move to the scene of a transition, which was begun by that turn itself
or by an earlier one. -/
inductive Crosses (earlier : List (Turn β κ η)) (turn : Turn β κ η) :
    Turn β κ η → Int → Prop where
  | atOnce {target : Int} : turn.SetsOut target → turn.Lands target →
      Crosses earlier turn turn target
  | later {begun : Turn β κ η} {target : Int} : Awaits earlier turn.before begun target →
      turn.BeginsNone → turn.Lands target → Crosses earlier turn begun target

/-- The rules by which a turn may move. -/
inductive Follows (earlier : List (Turn β κ η)) (turn : Turn β κ η) : Prop where
  | line : turn.made = .advance → turn.answer = .flag true → turn.before.AtEnd →
      turn.before.hasNextLine = true →
      turn.after.world.position.place =
        (turn.before.world.position.scene, turn.before.world.position.dialogue + 1) →
      Follows earlier turn
  | crosses {begun : Turn β κ η} {target : Int} : Crosses earlier turn begun target →
      Follows earlier turn
  | restarts : turn.made = .restart → turn.answer = .flag true →
      turn.before.world.position.finished = true →
      turn.after.world.position.place = (0, 0) → Follows earlier turn

/-- A session whose player awaits a scene only if one of some turns has set out for it. -/
inductive Accounts (turns : List (Turn β κ η)) (session : Session β κ η) (seen : List Sight) :
    Prop where
  | unstarted : (session.player seen).Unstarted → Accounts turns session seen
  | coherent {strike phase : Option (Timer (Alarm κ))} :
      (session.player seen).Coherent strike phase → (session.player seen).Rested phase →
      (∀ target, awaited? phase = some target → ∃ begun, Awaits turns session begun target) →
      Accounts turns session seen

variable {first last before after : Session β κ η} {earlier turns : List (Turn β κ η)}
  {turn begun : Turn β κ η} {target : Int} {seen sights : List Sight} {made : Request κ}
  {answer : Answer}

/-- A turn that moves nothing and begins nothing leaves a scene awaited. -/
theorem Awaits.goesOn (awaits : Awaits earlier turn.before begun target) (none : turn.BeginsNone)
    (unmoved : turn.after.world.position.place = turn.before.world.position.place) :
    Awaits (earlier ++ [turn]) turn.after begun target := by
  obtain ⟨past, later, split, nothing, same⟩ := awaits.since
  have here := unmoved.trans awaits.unmoved
  refine ⟨awaits.setsOut, ⟨past, later ++ [turn], by simp [split], ?_, ?_⟩, here⟩
  · intro passed member
    rcases List.mem_append.mp member with member | member
    · exact nothing passed member
    · obtain rfl := List.mem_singleton.mp member
      exact none
  · intro passed member
    rw [← List.cons_append] at member
    rcases List.mem_append.mp member with member | member
    · exact same passed member
    · obtain rfl := List.mem_singleton.mp member
      exact here

theorem Awaits.begin (setsOut : turn.SetsOut target)
    (unmoved : turn.after.world.position.place = turn.before.world.position.place) :
    Awaits (earlier ++ [turn]) turn.after turn target := by
  refine ⟨setsOut, ⟨earlier, [], rfl, ?_, ?_⟩, unmoved⟩
  · intro passed member
    exact absurd member List.not_mem_nil
  · intro passed member
    obtain rfl := List.mem_singleton.mp member
    exact unmoved

private theorem lands_of_player
    (lands : (before.player seen).Lands (after.player (sights.reverse ++ seen)) target) :
    Turn.Lands ⟨before, made, sights, answer, after⟩ target := by
  obtain ⟨more, since, sight, member, landed⟩ := lands.told
  obtain rfl : sights.reverse = more := List.append_cancel_right since
  exact ⟨⟨sight, List.mem_reverse.mp member, landed⟩, lands.place⟩

theorem Fresh.accounts (fresh : first.Fresh) : Accounts [] first [] := by
  cases fresh.stands.resting with
  | unstarted unstarted => exact .unstarted unstarted
  | coherent coherent _ =>
      exact absurd (coherent.started.symm.trans fresh.unstarted) (by simp)

private theorem dialogue?_congr {session other : Session β κ η}
    (novel : session.world.novel = other.world.novel)
    (place : session.world.position.place = other.world.position.place) :
    session.world.dialogue? = other.world.dialogue? := by
  simp only [Position.place, Prod.mk.injEq] at place
  unfold Stage.dialogue? Position.dialogue?
  rw [novel, place.1, place.2]

theorem SetsOut.chooses (setsOut : before.SetsOut made target)
    (menu : before.world.dialogue?.any Dialogue.hasChoices = true) :
    ∃ choiceId, made = .choose choiceId := by
  cases setsOut with
  | advance ended _ _ => exact absurd (ended.noMenu.symm.trans menu) Bool.false_ne_true
  | choose _ _ _ _ _ _ => exact ⟨_, rfl⟩

variable [DecidableEq κ] [Device β] {callbacks : Callbacks κ η}

private theorem Stands.turn_setsOut (stands : before.Stands seen) (quiet : callbacks.Quiet)
    (setsOut : before.SetsOut made target)
    (performed : Performs callbacks before made sights answer after) :
    Turn.SetsOut ⟨before, made, sights, answer, after⟩ target := by
  obtain ⟨given, ahead, start, rest, split, event, _, fine, _⟩ :=
    stands.begins quiet setsOut performed
  refine ⟨setsOut, given, ?_⟩
  have others : (ahead ++ rest).countP (fun sight => sight.event.begins) = 0 :=
    List.countP_eq_zero.mpr fun sight member => by simp [fine sight member]
  have begins : start.event.begins = true := by rw [event]; rfl
  rw [List.countP_append] at others
  rw [split, List.countP_append, List.countP_cons, if_pos begins]
  omega

private theorem Stands.beginsNone (stands : before.Stands seen) (quiet : callbacks.Quiet)
    (ordinary : made.Plays ∨ made.Quiet)
    (performed : Performs callbacks before made sights answer after)
    (transitioning : before.world.position.transitioning = true) :
    Turn.BeginsNone ⟨before, made, sights, answer, after⟩ := by
  intro sight member
  by_contra begins
  obtain ⟨target, setsOut⟩ := stands.setsOut_of_begins quiet ordinary performed
    ⟨sight, member, Bool.not_eq_false _ ▸ begins⟩
  obtain ⟨_, still, _⟩ := setsOut.leaves seen
  exact absurd (still.symm.trans transitioning) Bool.false_ne_true

/-- What becomes of the place of a player in a turn is by the rules, and whatever scene is awaited
afterwards is accounted for. -/
theorem Stands.follows {strike phase following : Option (Timer (Alarm κ))}
    (stands : before.Stands seen) (quiet : callbacks.Quiet) (ordinary : made.Plays ∨ made.Quiet)
    (performed : Performs callbacks before made sights answer after)
    (coherent : (before.player seen).Coherent strike phase)
    (accounted : ∀ target, awaited? phase = some target →
      ∃ begun, Awaits earlier before begun target)
    (fares : (before.player seen).Fares phase made ((before.player seen).respond made).1
      (after.player (sights.reverse ++ seen)) following) :
    (∀ target, awaited? following = some target → ∃ begun,
      Awaits (earlier ++ [⟨before, made, sights, answer, after⟩]) after begun target) ∧
      (after.world.position.place ≠ before.world.position.place →
        Follows earlier ⟨before, made, sights, answer, after⟩) := by
  -- a transition that is waited for keeps any other from beginning
  have startsNone : ∀ {target}, awaited? phase = some target →
      Turn.BeginsNone ⟨before, made, sights, answer, after⟩ := by
    intro target waited
    refine stands.beginsNone quiet ordinary performed ?_
    cases phase with
    | none => contradiction
    | some timer => exact coherent.crossing.transitioning
  have nothing : awaited? following = none → ∀ target, awaited? following = some target →
      ∃ begun, Awaits (earlier ++ [⟨before, made, sights, answer, after⟩]) after begun target := by
    intro done target waited
    exact absurd (done.symm.trans waited) (by simp)
  cases fares with
  | remains place which =>
      refine ⟨?_, fun moved => absurd place moved⟩
      rcases which with same | done
      · intro target waited
        rw [same] at waited
        obtain ⟨begun, awaits⟩ := accounted target waited
        have goesOn : Awaits (earlier ++ [⟨before, made, sights, answer, after⟩]) after begun
            target := Awaits.goesOn awaits (startsNone waited) place
        exact ⟨begun, goesOn⟩
      · exact nothing done
  | lands waited done lands =>
      obtain ⟨begun, awaits⟩ := accounted _ waited
      exact ⟨nothing done, fun _ =>
        .crosses (.later awaits (startsNone waited) (lands_of_player lands))⟩
  | line isAdvance succeeds ended more done place =>
      refine ⟨nothing done, fun _ => .line isAdvance ?_ ?_ more place⟩
      · subst isAdvance
        rw [← succeeds]
        exact stands.answers quiet trivial performed
      · exact ⟨coherent.started, ended.unfinished, ended.still, ended.revealed, ended.noMenu⟩
  | leaves unfinished still leaves which =>
      have setsOut := stands.turn_setsOut quiet
        (setsOut_of_leaves coherent.started unfinished still leaves) performed
      rcases which with ⟨place, waiting⟩ | ⟨lands, done⟩
      · refine ⟨?_, fun moved => absurd place moved⟩
        intro target waited
        obtain rfl := Option.some.inj (waiting.symm.trans waited)
        exact ⟨_, Awaits.begin setsOut place⟩
      · exact ⟨nothing done, fun _ => .crosses (.atOnce setsOut (lands_of_player lands))⟩
  | restarts isRestart succeeds finished done place =>
      refine ⟨nothing done, fun _ => .restarts isRestart ?_ finished place⟩
      subst isRestart
      rw [← succeeds]
      exact stands.answers quiet trivial performed

/-- A turn that moves follows the rules, and leaves the awaited scene accounted for. -/
theorem Accounts.follows (accounts : Accounts earlier before seen) (stands : before.Stands seen)
    (quiet : callbacks.Quiet) (ordinary : made.Plays ∨ made.Quiet)
    (performed : Performs callbacks before made sights answer after) :
    Accounts (earlier ++ [⟨before, made, sights, answer, after⟩]) after
        (sights.reverse ++ seen) ∧
      (after.world.position.place ≠ before.world.position.place →
        Follows earlier ⟨before, made, sights, answer, after⟩) := by
  obtain ⟨same, _⟩ := stands.turn quiet ordinary performed
  cases accounts with
  | unstarted unstarted =>
      rcases unstarted.comes made with ⟨time, still⟩ | ⟨_, nonempty, started⟩
      · have place : after.world.position.place = before.world.position.place :=
          congrArg Player.place (same.trans still)
        refine ⟨.unstarted ?_, fun moved => absurd place moved⟩
        rw [same, still]
        exact unstarted.settle time
      · obtain ⟨begun, coherent, stays, _⟩ := unstarted.start nonempty
        rw [← started, ← same] at coherent stays
        refine ⟨.coherent coherent (fun _ impossible => by contradiction)
          fun _ impossible => by contradiction, fun moved => absurd stays.place moved⟩
  | @coherent strike phase coherent rested accounted =>
      obtain ⟨begun, following, coherentNext, restedNext, turned⟩ := coherent.comes rested made
      have fares := coherent.fares turned
      rw [← same] at coherentNext restedNext fares
      obtain ⟨accountedNext, follows⟩ :=
        stands.follows quiet ordinary performed coherent accounted fares
      exact ⟨.coherent coherentNext restedNext accountedNext, follows⟩

theorem History.accounts (history : History callbacks first turns last)
    (quiet : callbacks.Quiet) (fresh : first.Fresh) :
    Accounts turns last ((seenIn turns).reverse ++ []) := by
  induction history with
  | nil => exact fresh.accounts
  | snoc history ordinary performed ih =>
      have next :=
        (ih.follows (history.stands quiet fresh.stands) quiet ordinary performed).1
      simpa [seenIn] using next

private theorem History.novel_before (history : History callbacks first turns last)
    (quiet : callbacks.Quiet) (stands : first.Stands seen) :
    ∀ turn ∈ turns, turn.before.world.novel = first.world.novel := by
  induction history with
  | nil =>
      intro turn member
      exact absurd member List.not_mem_nil
  | snoc history _ _ ih =>
      intro turn member
      rcases List.mem_append.mp member with member | member
      · exact ih turn member
      · obtain rfl := List.mem_singleton.mp member
        exact (history.constant quiet stands).1

private theorem History.finished_noMenu (history : History callbacks first turns last)
    (quiet : callbacks.Quiet) (fresh : first.Fresh)
    (finished : last.world.position.finished = true) :
    last.world.dialogue?.any Dialogue.hasChoices = false := by
  cases (history.stands quiet fresh.stands).resting with
  | unstarted unstarted =>
      have position : last.world.position = {} := unstarted.position
      rw [position] at finished
      contradiction
  | coherent coherent _ => exact (coherent.closed finished).2.2

/-- From a menu nothing leads on but a choice. -/
theorem Follows.chooses (follows : Follows earlier turn)
    (history : History callbacks first earlier turn.before) (quiet : callbacks.Quiet)
    (fresh : first.Fresh)
    (menu : turn.before.world.dialogue?.any Dialogue.hasChoices = true) :
    ∃ begun target choiceId, Crosses earlier turn begun target ∧
      begun.made = .choose choiceId := by
  cases follows with
  | line _ _ ended _ _ => exact absurd (ended.noMenu.symm.trans menu) Bool.false_ne_true
  | @crosses begun target crosses =>
      -- the request was made at the line that is left now
      have same : begun.before.world.dialogue? = turn.before.world.dialogue? := by
        cases crosses with
        | atOnce _ _ => rfl
        | later awaits _ _ =>
            obtain ⟨past, since, split, _⟩ := awaits.since
            have novel := history.novel_before quiet fresh.stands begun (by simp [split])
            have novelToo := (history.constant quiet fresh.stands).1
            exact dialogue?_congr (novel.trans novelToo.symm) awaits.unmoved.symm
      have setsOut : begun.SetsOut target := by
        cases crosses with
        | atOnce setsOut _ => exact setsOut
        | later awaits _ _ => exact awaits.setsOut
      obtain ⟨choiceId, made⟩ := setsOut.leaves.chooses (same ▸ menu)
      exact ⟨begun, target, choiceId, crosses, made⟩
  | restarts _ _ finished _ =>
      have noMenu := history.finished_noMenu quiet fresh finished
      exact absurd (noMenu.symm.trans menu) Bool.false_ne_true

private theorem Stands.advance_place (stands : before.Stands seen) (quiet : callbacks.Quiet)
    (typing : before.world.position.isTyping = true)
    (performed : Performs callbacks before .advance sights answer after) :
    after.world.position.place = before.world.position.place := by
  have plays : (Request.advance : Request κ).Plays := trivial
  have same := (stands.turn quiet (.inl plays) performed).1
  have busy : (before.player seen).position.isTyping = true := typing
  have stays := Player.advance_place_of_isTyping busy
  exact (congrArg Player.place same).trans stays

/-- A playback ends by going on from its last line only. -/
theorem Stands.finished (stands : before.Stands seen) (quiet : callbacks.Quiet)
    (ordinary : made.Plays ∨ made.Quiet)
    (performed : Performs callbacks before made sights answer after)
    (unfinished : before.world.position.finished = false)
    (finished : after.world.position.finished = true) :
    made = .advance ∧ answer = .flag true ∧ before.AtEnd ∧ before.hasNextLine = false ∧
      (before.world.novel.scenes.length : Int) ≤ before.world.position.scene + 1 := by
  obtain ⟨same, _⟩ := stands.turn quiet ordinary performed
  have ends : ((before.player seen).respond made).2.position.finished = true := by
    rw [← same]
    exact finished
  cases stands.resting with
  | unstarted unstarted =>
      rcases unstarted.comes made with ⟨time, still⟩ | ⟨_, nonempty, started⟩
      · rw [still] at ends
        exact absurd (unfinished.symm.trans ends) Bool.false_ne_true
      · obtain ⟨_, _, stays, _⟩ := unstarted.start nonempty
        rw [started] at ends
        exact absurd (unfinished.symm.trans (stays.finished.symm.trans ends))
          Bool.false_ne_true
  | coherent coherent rested =>
      obtain ⟨_, _, _, _, turned⟩ := coherent.comes rested made
      obtain ⟨isAdvance, succeeds, ended, last, further⟩ := turned.finished unfinished ends
      refine ⟨isAdvance, ?_, ⟨coherent.started, ended.unfinished, ended.still, ended.revealed,
        ended.noMenu⟩, last, further⟩
      subst isAdvance
      rw [← succeeds]
      exact stands.answers quiet trivial performed

/-- Every move of a history is by the rules: a menu is left through a choice alone, going on
while a line is typed does not move, and the end is reached from the last line of the last scene
alone. -/
theorem History.traverses (history : History callbacks first earlier before)
    (quiet : callbacks.Quiet) (fresh : first.Fresh) (ordinary : made.Plays ∨ made.Quiet)
    (performed : Performs callbacks before made sights answer after) :
    (after.world.position.place ≠ before.world.position.place →
      Follows earlier ⟨before, made, sights, answer, after⟩ ∧
        (before.world.dialogue?.any Dialogue.hasChoices = true →
          ∃ begun target choiceId,
            Crosses earlier ⟨before, made, sights, answer, after⟩ begun target ∧
              begun.made = .choose choiceId)) ∧
      (made = .advance → before.world.position.isTyping = true →
        after.world.position.place = before.world.position.place) ∧
      (before.world.position.finished = false → after.world.position.finished = true →
        made = .advance ∧ answer = .flag true ∧ before.AtEnd ∧ before.hasNextLine = false ∧
          (before.world.novel.scenes.length : Int) ≤ before.world.position.scene + 1) := by
  have stands := history.stands quiet fresh.stands
  refine ⟨?_, ?_, stands.finished quiet ordinary performed⟩
  · intro moved
    have follows :=
      ((history.accounts quiet fresh).follows stands quiet ordinary performed).2 moved
    exact ⟨follows, follows.chooses history quiet fresh⟩
  · rintro rfl typing
    exact stands.advance_place quiet typing performed

theorem traverses_to_ferry : ∃ turns before sights answer after,
    History Sample.nobody Sample.opened turns before ∧
      Performs Sample.nobody before (.update 900) sights answer after ∧
      before.world.position.place = (0, 1) ∧ after.world.position.place = (1, 0) ∧
      Follows turns ⟨before, .update 900, sights, answer, after⟩ := by
  obtain ⟨turns, before, sights, answer, after, ran, performs, here, there⟩ :
      ∃ turns before sights answer after,
        run? Sample.nobody 100 Sample.opened
            [.start, .skipTyping, .advance, .update 500, .choose "yes", .advance] =
            some (turns, before) ∧
          Performs Sample.nobody before (.update 900) sights answer after ∧
          before.world.position.place = (0, 1) ∧ after.world.position.place = (1, 0) :=
    ⟨_, _, _, _, _, rfl, ⟨100, rfl, rfl⟩, rfl, rfl⟩
  have history := history_of_run? (by simp [Request.Plays]) ran
  have moved : after.world.position.place ≠ before.world.position.place := by
    rw [here, there]
    decide
  have traverses :=
    history.traverses Sample.nobody_quiet Sample.opened_fresh (.inl (by trivial)) performs
  exact ⟨turns, before, sights, answer, after, history, performs, here, there,
    (traverses.1 moved).1⟩

end Session

end VisualNovel.Playback
