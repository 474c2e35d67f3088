import VisualNovel.Proofs.Playback.Outline
import VisualNovel.Proofs.Playback.Player.Turns

/-!
# What is still to go off

How many timers of a player can go off yet depends on its line, on its transition
and on the scene this leads to. Every timer that goes off leaves fewer, so moving
the clock on, to whatever times, makes no more than these go off.
-/

set_option autoImplicit false

namespace VisualNovel

namespace Novel

def openingLength (novel : Novel) (scene : Int) : Nat :=
  ((novel.dialogueAt? scene 0).map fun dialogue => dialogue.text.length).getD 0

end Novel

namespace Playback

open VisualNovel.Clock VisualNovel.Novel

def Position.unrevealed (position : Position) : Nat :=
  if position.isTyping then (position.textLength - position.revealed).toNat else 0

theorem Position.unrevealed_le (position : Position) :
    position.unrevealed ≤ (position.textLength - position.revealed).toNat := by
  unfold unrevealed
  split
  · exact Nat.le_refl _
  · exact Nat.zero_le _

private theorem Position.unrevealed_eq {position : Position}
    (unfinished : position.finished = false) :
    position.unrevealed = (position.textLength - position.revealed).toNat := by
  unfold unrevealed isTyping
  rw [unfinished, Bool.not_false, Bool.true_and]
  split
  · rfl
  · next revealed =>
      rw [decide_eq_true_eq, Int.not_lt] at revealed
      exact (Int.toNat_of_nonpos (Int.sub_nonpos_of_le revealed)).symm

variable {κ : Type}

/-- How many timers go off on the rest of the way that an alarm is set on, apart from those of the
line being typed: at a scene that is put in place there are the characters of its first line and
the end of the transition. -/
def Alarm.toCome (novel : Novel) : Alarm κ → Nat
  | .strike _ => 0
  | .commit _ target _ => 2 + novel.openingLength target
  | .clear _ | .ring _ => 1

namespace Player

variable {player next : Player κ} {strike phase : Option (Timer (Alarm κ))}
  {timer : Timer (Alarm κ)} {timeline : Timeline (Alarm κ)} {time : Int}

def ahead (player : Player κ) : Nat :=
  (player.timeline.pending.map fun timer => timer.payload.toCome player.novel).sum

def remainder (player : Player κ) : Nat :=
  player.position.unrevealed + player.ahead

/-! ## The line being typed -/

theorem Reveals.unrevealed_eq_zero (reveals : player.Reveals none) :
    player.position.unrevealed = 0 := by
  have bound := player.position.unrevealed_le
  rw [reveals.idle rfl, Int.sub_self] at bound
  exact Nat.le_zero.mp bound

private theorem lineLength_nonneg (player : Player κ) : 0 ≤ player.lineLength := by
  unfold lineLength
  cases player.dialogue? with
  | none => exact Int.le_refl 0
  | some dialogue => exact Int.natCast_nonneg _

theorem Lined.unrevealed_le (lined : player.Lined strike phase) :
    (player.position.unrevealed : Int) ≤ player.lineLength := by
  have nonneg := player.lineLength_nonneg
  cases strike with
  | none =>
      rw [lined.reveals.unrevealed_eq_zero]
      exact nonneg
  | some timer =>
      obtain ⟨_, _, _, revealed, _⟩ := lined.reveals.busy (Option.some_ne_none timer)
      have bound := player.position.unrevealed_le
      rw [lined.length] at bound
      omega

/-- The timer of the line being typed leaves fewer of its characters to reveal. -/
theorem Lined.unrevealed_strike_lt (lined : player.Lined (some timer) phase)
    (unfinished : player.position.finished = false) (timeline : Timeline (Alarm κ)) :
    (({ player with timeline } : Player κ).strike
      player.typewriter.generation).position.unrevealed < player.position.unrevealed := by
  obtain ⟨dialogue, found, text, revealed, within⟩ :=
    lined.reveals.busy (Option.some_ne_none timer)
  have length : player.position.textLength = player.typewriter.reveal.total := by
    rw [lined.length, lineLength, found, Reveal.total, text]
    rfl
  rw [Position.unrevealed_eq unfinished, revealed, length]
  unfold Player.strike
  cases complete : (player.typewriter.reveal.step 1).complete with
  | true =>
      have struck := player.typewriter.strike_last Alarm.strike timeline complete
      dsimp only
      rw [struck]
      refine Nat.lt_of_le_of_lt (Position.unrevealed_le _) ?_
      simp only [heed, withTyped, withPosition, emit]
      omega
  | false =>
      have struck := player.typewriter.strike_next Alarm.strike timeline complete
      obtain ⟨further, _⟩ := player.typewriter.reveal.step_of_not_complete complete
      dsimp only
      rw [struck]
      refine Nat.lt_of_le_of_lt (Position.unrevealed_le _) ?_
      simp only [heed, withTyped, withPosition, length, further]
      omega

/-! ## What a timer leaves -/

theorem Lined.ahead_eq (lined : player.Lined strike phase) :
    player.ahead = (phase.toList.map fun timer => timer.payload.toCome player.novel).sum := by
  have still : (strike.toList.map fun timer => timer.payload.toCome player.novel).sum = 0 := by
    cases strike with
    | none => rfl
    | some timer =>
        rw [Option.toList_some, List.map_singleton, List.sum_singleton,
          (lined.waits.strikes timer rfl).2]
        rfl
  unfold ahead
  rw [(lined.waits.pending.map _).sum_nat, List.map_append, List.sum_append, still, Nat.zero_add]

private theorem Arrives.ahead_le {target : Int} {timing : Timing}
    (arrives : Arrives player next target timing phase) (lined : next.Lined strike phase) :
    next.ahead ≤ 1 := by
  obtain ⟨_, _, _, _, onward, _⟩ := arrives.told
  rw [lined.ahead_eq]
  cases onward with
  | wait _ _ payload =>
      rw [Option.toList_some, List.map_singleton, List.sum_singleton, payload]
      exact Nat.le_refl 1
  | done _ => exact Nat.zero_le 1

theorem Arrives.unrevealed_le {target : Int} {timing : Timing}
    (arrives : Arrives player next target timing phase) (lined : next.Lined strike phase) :
    next.position.unrevealed ≤ player.novel.openingLength target := by
  have place := arrives.place
  simp only [Player.place, Position.place, Prod.mk.injEq] at place
  have bound := lined.unrevealed_le
  unfold lineLength Player.dialogue? Position.dialogue? at bound
  rw [arrives.novel, place.1, place.2] at bound
  unfold openingLength
  generalize player.novel.dialogueAt? target 0 = line at bound ⊢
  cases line with
  | none => exact Int.ofNat_le.mp bound
  | some dialogue => exact Int.ofNat_le.mp bound

/-- Every timer that goes off leaves fewer that still can. -/
theorem Coherent.remainder_ring_lt (coherent : player.Coherent strike phase)
    (taken : player.timeline.takeDue? time = some (timer, timeline)) :
    (({ player with timeline } : Player κ).ring timer).remainder < player.remainder := by
  obtain ⟨first, _, now, orderly⟩ := coherent.lined.waits.orderly.takeDue taken
  have unfinished := coherent.unfinished_of_pending (first ▸ List.mem_cons_self)
  have pending := coherent.lined.waits.pending
  have member := pending.mem_iff.mp (first ▸ List.mem_cons_self)
  have ahead := coherent.lined.ahead_eq
  rw [first] at pending
  unfold remainder ring
  rcases List.mem_append.mp member with member | member
  · -- the next character of the line, which leaves the transition alone
    obtain rfl := Option.mem_toList.mp member
    obtain ⟨_, payload⟩ := coherent.lined.waits.strikes timer rfl
    obtain ⟨begun, lined⟩ := coherent.lined.ring orderly pending.cons_inv
    have fewer := coherent.lined.unrevealed_strike_lt unfinished timeline
    have novel := (types_strike ({ player with timeline } : Player κ)
      player.typewriter.generation).stays.novel
    rw [payload, lined.ahead_eq, ahead, novel]
    exact Nat.add_lt_add_right fewer _
  · -- the next phase of the transition
    obtain rfl := Option.mem_toList.mp member
    have left := (pending.trans List.perm_append_comm).cons_inv
    rw [Option.toList_some, List.map_singleton, List.sum_singleton] at ahead
    cases coherent.crossing.phased timer rfl with
    | @commit target timing scene _ payload found =>
        obtain ⟨begun, following, after, arrives⟩ := coherent.arrive orderly left found timing
        have line := arrives.unrevealed_le after.lined
        have further := arrives.ahead_le after.lined
        rw [payload] at ahead ⊢
        simp only [Alarm.toCome] at ahead
        dsimp only at line ⊢
        omega
    | clear _ payload =>
        have past := (coherent.clear orderly left).lined.ahead_eq
        rw [payload] at ahead ⊢
        dsimp only
        rw [past, ahead, clear_eq]
        exact Nat.lt_succ_self _

theorem Valid.remainder_ring_lt (valid : player.Valid)
    (taken : player.timeline.takeDue? time = some (timer, timeline)) :
    (({ player with timeline } : Player κ).ring timer).remainder < player.remainder := by
  cases valid with
  | unstarted unstarted =>
      rw [unstarted.takeDue] at taken
      contradiction
  | coherent coherent => exact coherent.remainder_ring_lt taken

/-! ## Moving the clock on -/

theorem Valid.remainder_drain_le (valid : player.Valid) :
    (Player.drain time player).1 + (Player.drain time player).2.remainder ≤ player.remainder := by
  induction player using Player.drain.induct time with
  | case1 player idle =>
      rw [drain_idle idle]
      exact Nat.le_of_eq (Nat.zero_add _)
  | case2 player timer timeline taken ih =>
      rw [drain_fire taken]
      have fewer := valid.remainder_ring_lt taken
      have further := ih (valid.fire taken).2
      dsimp only
      omega

private theorem Valid.nextDue_eq_none (valid : player.Valid) (none : player.remainder = 0) :
    player.timeline.nextDue? = Option.none := by
  cases due : player.timeline.nextDue? with
  | none => rfl
  | some time =>
      obtain ⟨_, _, taken⟩ := Timeline.exists_takeDue due (Int.le_refl time)
      have fewer := valid.remainder_ring_lt taken
      rw [none] at fewer
      exact absurd fewer (Nat.not_lt_zero _)

theorem Valid.remainder_flush_le (valid : player.Valid) (limit : Int) (ran : Nat) :
    (Player.flush limit ran player).1 + (Player.flush limit ran player).2.remainder ≤
      ran + player.remainder := by
  induction ran, player using Player.flush.induct limit with
  | case1 ran player enough => rw [flush_enough enough]
  | case2 ran player more idle => rw [flush_idle more idle]
  | case3 ran player more time due drained =>
      rename_i ih
      rw [flush_more more due]
      have fewer := @Valid.remainder_drain_le _ player (max player.timeline.now time) valid
      have further := ih (valid.drain (le_max_left player.timeline.now time))
      dsimp only [drained] at further
      omega

/-- Nothing is waited for when as many timers were let go off as there could be. -/
theorem Valid.nextDue_flush (valid : player.Valid) {limit : Int} {ran : Nat}
    (enough : (ran + player.remainder : Int) ≤ limit) :
    (Player.flush limit ran player).2.timeline.nextDue? = none := by
  induction ran, player using Player.flush.induct limit with
  | case1 ran player past =>
      rw [flush_enough past]
      exact valid.nextDue_eq_none (by omega)
  | case2 ran player more idle =>
      rw [flush_idle more idle]
      exact idle
  | case3 ran player more time due drained =>
      rename_i ih
      rw [flush_more more due]
      have fewer := @Valid.remainder_drain_le _ player (max player.timeline.now time) valid
      refine ih (valid.drain (le_max_left player.timeline.now time)) ?_
      dsimp only [drained]
      omega

/-! ## What went off -/

theorem tends_enterDialogue (player : Player κ) :
    player.timeline.Tends player.enterDialogue.timeline := by
  unfold enterDialogue
  split
  · exact Typewriter.tends_cancel _ _
  · dsimp only
    unfold typeLine?
    split
    · exact .refl
    · split
      · exact .refl
      · simp only [Option.getD_some, typeLine, heed_timeline]
        exact Typewriter.tends_start _ _ _

private theorem tends_enterScene (player : Player κ) :
    player.timeline.Tends player.enterScene.timeline :=
  tends_enterDialogue ((player.withPosition fun position => { position with dialogue := 0 }).emit
    (.sceneEnter player.position.scene player.scene?))

private theorem tends_awaitClear (player : Player κ) (generation : Nat) (timing : Timing) :
    player.timeline.Tends (player.awaitClear generation timing).timeline := by
  unfold awaitClear clear
  split
  · split
    · exact .refl
    · exact Timeline.Tends.refl.later _ _ _
  · exact .refl

private theorem tends_ring (player : Player κ) (timer : Timer (Alarm κ)) :
    player.timeline.Tends (player.ring timer).timeline := by
  unfold ring
  split
  · next generation _ =>
      unfold Player.strike
      rw [heed_timeline]
      exact Typewriter.tends_strike _ _ _
  · next generation target timing _ =>
      unfold commit
      split
      · dsimp only
        refine Timeline.Tends.trans ?_ (tends_awaitClear _ _ _)
        exact tends_enterScene ((player.swap target).emit (.transitionCommit target))
      · exact .refl
  · next generation _ =>
      unfold clear
      split <;> exact .refl
  · exact .refl

theorem length_fired_drain (time : Int) (player : Player κ) :
    (drain time player).2.timeline.fired.length =
      player.timeline.fired.length + (drain time player).1 := by
  induction player using drain.induct time with
  | case1 player idle =>
      rw [drain_idle idle]
      rfl
  | case2 player timer timeline taken ih =>
      obtain ⟨_, _, _, rfl⟩ := Timeline.takeDue?_eq_some.mp taken
      rw [drain_fire taken, ih, (tends_ring _ timer).fired_eq, List.length_cons]
      omega

theorem length_fired_flush (limit : Int) (ran : Nat) (player : Player κ) :
    (flush limit ran player).2.timeline.fired.length + ran =
      player.timeline.fired.length + (flush limit ran player).1 := by
  induction ran, player using flush.induct limit with
  | case1 ran player enough => rw [flush_enough enough]
  | case2 ran player more idle => rw [flush_idle more idle]
  | case3 ran player more time due drained =>
      rename_i ih
      have went := length_fired_drain (max player.timeline.now time) player
      rw [flush_more more due]
      dsimp only [drained] at ih
      omega

end Player

end Playback

end VisualNovel
