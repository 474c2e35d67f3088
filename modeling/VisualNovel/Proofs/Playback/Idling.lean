import VisualNovel.Proofs.Playback.Linear
import VisualNovel.Proofs.Playback.Player.Passage

/-!
# A session left to its clock

Where nothing is asked for but to move the clock on, a session comes to rest: no
more timers go off than there are characters to reveal in the line being typed and
stages left of the transition under way, with the first line of the scene that it
leads to.
-/

set_option autoImplicit false

namespace VisualNovel.Playback

open VisualNovel.Agenda VisualNovel.Clock VisualNovel.Novel VisualNovel.Sound

variable {β κ η : Type}

/-- Lingering spends no more than what is still to go off. -/
theorem Player.Valid.lingers {player : Player κ} {made : Request κ} (valid : player.Valid)
    (lingers : made.Lingers) :
    (player.respond made).2.timeline.fired.length + (player.respond made).2.remainder ≤
      player.timeline.fired.length + player.remainder := by
  cases lingers with
  | update time =>
      have went := length_fired_drain (max player.timeline.now time) player
      have fewer := @Valid.remainder_drain_le _ player (max player.timeline.now time) valid
      simp only [respond]
      omega
  | flush limit =>
      have went := length_fired_flush limit 0 player
      have fewer := valid.remainder_flush_le limit 0
      simp only [respond]
      omega
  | quiet reads => rw [respond_quiet reads]

namespace Session

def remainder (last : Session β κ η) (turns : List (Turn β κ η)) : Nat :=
  last.world.position.unrevealed +
    (Passage.ofSights (seenIn turns).reverse).timers last.world.novel

private theorem seenIn_snoc (turns : List (Turn β κ η)) (turn : Turn β κ η) :
    seenIn (turns ++ [turn]) = seenIn turns ++ turn.sights := by
  simp [seenIn]

variable [Device β] [DecidableEq κ] {callbacks : Callbacks κ η}
  {first last final : Session β κ η} {turns more : List (Turn β κ η)} {seen : List Sight}

theorem History.accounted (history : History callbacks first turns last)
    (quiet : callbacks.Quiet) (fresh : first.Fresh) :
    (last.player (seenIn turns).reverse).Accounted := by
  induction history with
  | nil => exact .unstarted fresh.player_unstarted rfl
  | @snoc _ _ _ made _ _ history ordinary performed hypothesis =>
      have stands := history.stands quiet fresh.stands
      rw [List.append_nil] at stands
      obtain ⟨same, _⟩ := stands.turn quiet ordinary performed
      rw [seenIn_snoc, List.reverse_append, same]
      exact hypothesis.respond made

theorem History.remainder_eq (history : History callbacks first turns last)
    (quiet : callbacks.Quiet) (fresh : first.Fresh) :
    (last.player (seenIn turns).reverse).remainder = last.remainder turns :=
  (history.accounted quiet fresh).remainder_eq

/-- Turns that linger use up the remainder: every timer that goes off is one less. -/
theorem History.spends (history : History callbacks last more final)
    (stands : last.Stands seen) (quiet : callbacks.Quiet)
    (lingers : ∀ turn ∈ more, turn.made.Lingers) :
    final.timeline.fired.length + (final.player ((seenIn more).reverse ++ seen)).remainder ≤
      last.timeline.fired.length + (last.player seen).remainder := by
  -- by induction on the turns: each spends of what the ones before have left
  induction history with
  | nil => exact Nat.le_refl _
  | snoc history ordinary performed hypothesis =>
      have earlier := hypothesis fun turn member => lingers turn (List.mem_append_left _ member)
      have between := history.stands quiet stands
      obtain ⟨same, _⟩ := between.turn quiet ordinary performed
      have latest := between.resting.valid.lingers
        (lingers _ (List.mem_append_right _ List.mem_cons_self))
      rw [← same] at latest
      rw [seenIn_snoc, List.reverse_append, List.append_assoc]
      exact Nat.le_trans latest earlier

/-- After any requests, a session whose callbacks make no moves of their own performs whatever moves
its clock on. Left to its clock it comes to rest, after so many timers at most as are left of the
line and of the transition. -/
theorem History.comes_to_rest (history : History callbacks first turns last)
    (quiet : callbacks.Quiet) (fresh : first.Fresh) :
    (∀ time, ∃ sights ran after, Performs callbacks last (.update time) sights (.count ran) after ∧
      after.timeline.fired.length = last.timeline.fired.length + ran) ∧
    (∀ more final, History callbacks last more final → (∀ turn ∈ more, turn.made.Lingers) →
      final.timeline.fired.length ≤ last.timeline.fired.length + last.remainder turns) ∧
    (∀ limit, ∃ sights ran after, Performs callbacks last (.flush limit) sights (.count ran) after ∧
      ((last.remainder turns : Int) ≤ limit → after.timeline.nextDue? = none)) ∧
    ∃ sights rested, RunsDown callbacks last sights rested := by
  have stands := history.stands quiet fresh.stands
  rw [List.append_nil] at stands
  have valid := stands.resting.valid
  have bound := history.remainder_eq quiet fresh
  refine ⟨?_, ?_, ?_, stands.runsDown quiet⟩
  · intro time
    have plays : (Request.update time : Request κ).Plays := trivial
    obtain ⟨sights, after, performs, shows, _⟩ := stands.responds quiet plays
    refine ⟨sights, _, after, performs, ?_⟩
    rw [shows.timeline]
    exact Player.length_fired_drain _ _
  · intro more final further lingers
    have spends := further.spends stands quiet lingers
    rw [bound] at spends
    exact Nat.le_trans (Nat.le_add_right _ _) spends
  · intro limit
    have plays : (Request.flush limit : Request κ).Plays := trivial
    obtain ⟨sights, after, performs, shows, _⟩ := stands.responds quiet plays
    refine ⟨sights, _, after, performs, fun enough => ?_⟩
    rw [shows.timeline]
    refine valid.nextDue_flush ?_
    rw [bound]
    omega

theorem comes_to_rest_amid_passage : Sample.nobody.Quiet ∧ Sample.opened.Fresh ∧ ∃ turns last,
    History Sample.nobody Sample.opened turns last ∧ last.remainder turns = 4 + (2 + 5) ∧
      (∀ more final, History Sample.nobody last more final →
        (∀ turn ∈ more, turn.made.Lingers) →
        final.timeline.fired.length ≤ last.timeline.fired.length + 11) ∧
      ∃ sights ran after, Performs Sample.nobody last (.flush 11) sights (.count ran) after ∧
        after.timeline.nextDue? = none := by
  obtain ⟨turns, last, ran, left⟩ : ∃ turns last,
      run? Sample.nobody 100 Sample.opened [.start, .skipTyping, .advance, .update 500,
          .choose "yes", .startTyping, .update 560] = some (turns, last) ∧
        last.remainder turns = 11 :=
    ⟨_, _, rfl, rfl⟩
  have history := history_of_run? (by simp [Request.Plays]) ran
  obtain ⟨_, spends, flushes, _⟩ :=
    history.comes_to_rest Sample.nobody_quiet Sample.opened_fresh
  rw [left] at spends flushes
  obtain ⟨sights, ran, after, performs, idle⟩ := flushes 11
  exact ⟨Sample.nobody_quiet, Sample.opened_fresh, turns, last, history, left, spends, sights, ran,
    after, performs, idle (Int.le_refl 11)⟩

end Session

end VisualNovel.Playback
