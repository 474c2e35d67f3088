import VisualNovel.Proofs.Clock.Draining
import VisualNovel.Proofs.Playback.Player.Landing
import VisualNovel.Proofs.Playback.Player.Utterance

/-!
# Players that type at once

A player whose lines are typed at once never waits for a character. It waits for a
phase of a transition at most, and when that goes off there are fewer to come: so
where a transition leads to, and what is said of it, is known from the beginning.
-/

set_option autoImplicit false

namespace VisualNovel.Playback

open VisualNovel.Clock VisualNovel.Novel

variable {κ : Type}

structure Typewriter.Prompt (typewriter : Typewriter) : Prop where
  interval : typewriter.interval ≤ 0
  timer : typewriter.timer = none

namespace Typewriter.Prompt

variable {typewriter : Typewriter}

theorem cancel (prompt : typewriter.Prompt) (timeline : Timeline (Alarm κ)) :
    (typewriter.cancel timeline).typewriter.Prompt := by
  rw [cancel_eq]
  exact ⟨prompt.interval, rfl⟩

theorem start (prompt : typewriter.Prompt) (text : String) (timeline : Timeline (Alarm κ)) :
    (typewriter.start .strike text timeline).2.typewriter.Prompt := by
  obtain ⟨_, _, started⟩ := typewriter.start_at_once Alarm.strike timeline (.inr prompt.interval)
  rw [started]
  exact ⟨prompt.interval, rfl⟩

end Typewriter.Prompt

namespace Player

variable {player next : Player κ} {strike phase following : Option (Timer (Alarm κ))}

abbrev Prompt (player : Player κ) : Prop :=
  player.typewriter.Prompt

namespace Prompt

theorem enterDialogue (prompt : player.Prompt) : player.enterDialogue.Prompt := by
  unfold Player.enterDialogue
  cases player.dialogue? with
  | none => exact prompt.cancel _
  | some dialogue =>
      dsimp only
      unfold typeLine?
      split
      · exact prompt
      · next entered _ =>
          split
          · exact prompt
          · simp only [Option.getD_some, typeLine, Prompt, heed_typewriter, withTyped]
            exact prompt.start entered.text _

theorem enterScene (prompt : player.Prompt) : player.enterScene.Prompt := by
  have begun : ((player.withPosition fun position => { position with dialogue := 0 }).emit
      (.sceneEnter player.position.scene player.scene?)).Prompt := prompt
  exact begun.enterDialogue

theorem clear (prompt : player.Prompt) (generation : Nat) : (player.clear generation).Prompt := by
  unfold Player.clear
  split <;> exact prompt

theorem awaitClear (prompt : player.Prompt) (generation : Nat) (timing : Timing) :
    (player.awaitClear generation timing).Prompt := by
  unfold Player.awaitClear
  split
  · split
    · exact prompt.clear generation
    · exact prompt
  · exact prompt

theorem commit (prompt : player.Prompt) (generation : Nat) (target : Int) (timing : Timing) :
    (player.commit generation target timing).Prompt := by
  have swapped : ((player.swap target).emit (.transitionCommit target)).Prompt := prompt
  unfold Player.commit
  split
  · exact swapped.enterScene.awaitClear generation timing
  · exact prompt

theorem beginTransition (prompt : player.Prompt) (target : Int) :
    (player.beginTransition target).Prompt := by
  have embarked : (player.embark target).Prompt := prompt.cancel _
  rw [beginTransition_eq]
  unfold awaitCommit
  split
  · exact embarked.commit _ target _
  · exact embarked

theorem advance (prompt : player.Prompt) (revealed : player.position.isTyping = false) :
    player.advance.2.Prompt := by
  have line : player.nextLine.Prompt := prompt
  unfold Player.advance
  split
  · exact prompt
  rw [if_neg (by simp [revealed])]
  split
  · exact prompt
  split
  · exact line.enterDialogue
  split
  · exact prompt.beginTransition _
  · exact prompt.cancel _

theorem choose (prompt : player.Prompt) (choiceId : String) :
    (player.choose choiceId).2.Prompt := by
  unfold Player.choose
  split
  · exact prompt
  cases player.dialogue?.bind fun dialogue => dialogue.choice? choiceId with
  | none => exact prompt
  | some choice =>
      dsimp only
      cases player.novel.sceneIndex? choice.targetSceneId with
      | none => exact prompt
      | some target =>
          have chosen : (player.emit (.choiceSelect choice target)).Prompt := prompt
          exact chosen.beginTransition target

end Prompt

theorem Coherent.strike_eq_none (coherent : player.Coherent strike phase)
    (prompt : player.Prompt) : strike = none := by
  have idle := coherent.lined.waits.striking
  rw [prompt.timer] at idle
  exact Option.map_eq_none_iff.mp idle.symm

/-! ## Waiting for the end of a transition -/

def stages (phase : Option (Timer (Alarm κ))) : Nat :=
  match phase with
  | none => 0
  | some timer => if timer.payload.isCommit then 2 else 1

theorem stages_le (phase : Option (Timer (Alarm κ))) : stages phase ≤ 2 := by
  unfold stages
  split
  · exact Nat.zero_le _
  · split <;> omega

def goal (player : Player κ) (phase : Option (Timer (Alarm κ))) : Int × Int :=
  match awaited? phase with
  | none => player.place
  | some target => (target, 0)

def announced (player : Player κ) (phase : Option (Timer (Alarm κ))) : List Event :=
  match awaited? phase with
  | none => []
  | some target => entryEvents player.novel target

/-- A player has gone on towards the end of the transition, if one is under way. -/
structure Nears (player : Player κ) (phase : Option (Timer (Alarm κ))) (next : Player κ)
    (following : Option (Timer (Alarm κ))) : Prop where
  novel : next.novel = player.novel
  finished : next.position.finished = player.position.finished
  goal : next.goal following = player.goal phase
  tells : ∃ events, Utters player next events ∧
    events ++ next.announced following = player.announced phase

theorem Nears.refl (player : Player κ) (phase : Option (Timer (Alarm κ))) :
    player.Nears phase player phase :=
  ⟨rfl, rfl, rfl, [], .silent rfl, rfl⟩

theorem Nears.trans {last : Player κ} {final : Option (Timer (Alarm κ))}
    (first : player.Nears phase next following) (second : next.Nears following last final) :
    player.Nears phase last final := by
  obtain ⟨events, utters, said⟩ := first.tells
  obtain ⟨later, uttersLater, saidLater⟩ := second.tells
  exact ⟨second.novel.trans first.novel, second.finished.trans first.finished,
    second.goal.trans first.goal, events ++ later, utters.trans uttersLater, by
      rw [List.append_assoc, saidLater, said]⟩

theorem Arrives.nears {ready : Player κ} {target : Int} {timing : Timing}
    (arrives : Arrives ready next target timing following) (novel : ready.novel = player.novel)
    (seen : ready.seen = player.seen) (unfinished : player.position.finished = false)
    (awaits : awaited? phase = some target) : player.Nears phase next following := by
  obtain ⟨_, done⟩ := arrives.lands
  have utters : Utters player next (entryEvents player.novel target) := by
    have said := arrives.utters
    rw [novel] at said
    exact (Utters.silent seen).trans said
  refine ⟨arrives.novel.trans novel, arrives.unfinished.trans unfinished.symm, ?_, _, utters, ?_⟩
  · simp only [Player.goal, done, awaits, arrives.place]
  · simp only [announced, done, awaits, List.append_nil]

theorem Coherent.idle (coherent : player.Coherent none phase) (rested : player.Rested phase) :
    player.timeline.takeDue? player.now = none := by
  refine Timeline.takeDue?_eq_none.mpr fun timer first => ?_
  have waiting := coherent.lined.waits.pending.mem_iff.mp (List.mem_of_mem_head? first)
  exact rested timer (Option.mem_toList.mp waiting)

theorem Coherent.nextDue (coherent : player.Coherent none phase) :
    player.timeline.nextDue? = phase.map (·.due) := by
  have pending := coherent.lined.waits.pending
  unfold Timeline.nextDue?
  cases phase with
  | none => rw [List.Perm.eq_nil pending]; rfl
  | some timer => rw [List.perm_singleton.mp pending]; rfl

/-- The one timer of a player that types at once goes off, and fewer are to come. -/
theorem Coherent.goOff {timer : Timer (Alarm κ)} (coherent : player.Coherent none (some timer))
    (prompt : player.Prompt) :
    ∃ timeline next following, player.timeline.takeDue? timer.due = some (timer, timeline) ∧
      ({ player with timeline } : Player κ).ring timer = next ∧ next.Coherent none following ∧
      next.Prompt ∧ next.Rested following ∧ next.now = timer.due ∧
      player.Nears (some timer) next following ∧ stages following < stages (some timer) := by
  have pending : player.timeline.pending = [timer] :=
    List.perm_singleton.mp coherent.lined.waits.pending
  obtain ⟨timeline, taken⟩ : ∃ timeline,
      player.timeline.takeDue? timer.due = some (timer, timeline) := by
    simp [Timeline.takeDue?, pending]
  obtain ⟨waiting, _, now, orderly⟩ := coherent.lined.waits.orderly.takeDue taken
  have left : timeline.pending.Perm (none : Option (Timer (Alarm κ))).toList := by
    rw [pending] at waiting
    exact .of_eq (List.cons.inj waiting).2.symm
  have unfinished := coherent.unfinished_of_pending (pending ▸ List.mem_cons_self)
  have ready : ({ player with timeline } : Player κ).Prompt := prompt
  refine ⟨timeline, ({ player with timeline } : Player κ).ring timer, ?_⟩
  unfold ring
  -- a commit brings the player to the scene, a clear only ends the transition
  cases coherent.crossing.phased timer rfl with
  | @commit target timing scene _ payload found =>
      obtain ⟨begun, following, after, arrives⟩ := coherent.arrive orderly left found timing
      have done := ready.commit player.generation target timing
      obtain ⟨ending, _, _, _, onward, _⟩ := arrives.told
      obtain rfl := after.strike_eq_none done
      rw [payload]
      refine ⟨following, taken, rfl, after, done, onward.rested arrives.now,
        arrives.now.trans now, arrives.nears rfl rfl unfinished (by simp [awaited?, payload]), ?_⟩
      cases onward with
      | wait _ _ next => simp [stages, payload, next, Alarm.isCommit]
      | done _ => simp [stages, payload, Alarm.isCommit]
  | clear _ payload =>
      have awaits : awaited? (some timer) = none := by simp [awaited?, payload]
      have cleared := ({ player with timeline } : Player κ).clear_eq
      have nears : player.Nears (some timer)
          (({ player with timeline } : Player κ).clear player.generation) none := by
        rw [cleared]
        refine ⟨rfl, rfl, ?_, [], utters_emit _ _, ?_⟩
        · simp only [Player.goal, awaits]
          rfl
        · simp only [announced, awaits]
          rfl
      rw [payload]
      exact ⟨none, taken, rfl, coherent.clear orderly left, ready.clear player.generation,
        fun _ impossible => by contradiction, (clear_now _ _).trans now, nears,
        by simp [stages, payload, Alarm.isCommit]⟩

/-- Moving the clock to the next phase makes one timer go off. -/
theorem Coherent.drain_one {timer : Timer (Alarm κ)}
    (coherent : player.Coherent none (some timer)) (prompt : player.Prompt)
    (rested : player.Rested (some timer)) :
    ∃ next following, Player.drain (max player.timeline.now timer.due) player = (1, next) ∧
      next.Coherent none following ∧ next.Prompt ∧ next.Rested following ∧
      player.Nears (some timer) next following ∧ stages following < stages (some timer) := by
  obtain ⟨timeline, next, following, taken, rung, after, prompt, restedNext, now, nears, fewer⟩ :=
    coherent.goOff prompt
  have due : max player.timeline.now timer.due = timer.due := max_eq_right (rested timer rfl).le
  have idle := after.idle restedNext
  rw [now] at idle
  have settled : next.settle timer.due = next := by
    rw [← now]
    rfl
  refine ⟨next, following, ?_, after, prompt, restedNext, nears, fewer⟩
  rw [due, drain_fire taken, rung, drain_idle idle, settled]

/-- Waiting for the end of a transition brings a player there, within as many timers as there
are stages. -/
theorem Coherent.flush_end {limit : Int} {ran : Nat} (coherent : player.Coherent none phase)
    (prompt : player.Prompt) (rested : player.Rested phase)
    (enough : ran + stages phase ≤ limit) :
    (Player.flush limit ran player).2.Coherent none none ∧
      (Player.flush limit ran player).2.Prompt ∧
      player.Nears phase (Player.flush limit ran player).2 none := by
  generalize left : stages phase = count at enough
  -- by induction on the stages that are left: each timer that goes off ends one
  induction count using Nat.strongRecOn generalizing player phase ran with
  | ind count hypothesis =>
      subst left
      cases phase with
      | none =>
          have still : (Player.flush limit ran player).2 = player := by
            by_cases done : limit ≤ ran
            · rw [flush_enough done]
            · rw [flush_idle done coherent.nextDue]
          rw [still]
          exact ⟨coherent, prompt, .refl player none⟩
      | some timer =>
          obtain ⟨next, following, drained, after, prompt, restedNext, nears, fewer⟩ :=
            coherent.drain_one prompt rested
          obtain ⟨ended, promptEnd, nearsEnd⟩ := hypothesis (stages following) fewer after prompt
            restedNext rfl (by push_cast; omega : (ran + 1 : Nat) + stages following ≤ limit)
          rw [flush_more (by omega) coherent.nextDue, drained]
          exact ⟨ended, promptEnd, nears.trans nearsEnd⟩

end Player

end VisualNovel.Playback
