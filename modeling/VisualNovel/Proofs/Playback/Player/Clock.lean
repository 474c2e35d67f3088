import VisualNovel.Proofs.Playback.Player
import VisualNovel.Proofs.Playback.Typewriter

/-!
# The clock of a player

Moving the clock on makes the timers of a player go off. This comes to an end: a
timer that commits a transition is not set again, one that reveals a character is
set again only while there are more, and any other is gone.
-/

set_option autoImplicit false

namespace VisualNovel.Playback

open VisualNovel.Clock VisualNovel.Novel

variable {κ : Type}

def Alarm.isCommit : Alarm κ → Bool
  | .commit _ _ _ => true
  | _ => false

def commits (timeline : Timeline (Alarm κ)) : Nat :=
  timeline.pending.countP fun timer => timer.payload.isCommit

theorem commits_cancel_le (timeline : Timeline (Alarm κ)) (number : Nat) :
    commits (timeline.cancel number) ≤ commits timeline :=
  List.filter_sublist.countP_le

private theorem commits_later (timeline : Timeline (Alarm κ)) (delay : Int) (label : String)
    {alarm : Alarm κ} (other : alarm.isCommit = false) :
    commits (timeline.later delay label alarm).2 = commits timeline := by
  unfold commits Timeline.later
  dsimp only
  split
  · rfl
  · rw [(insertTimer_perm _ _).countP_eq]
    simp [other]

namespace Typewriter

variable (typewriter : Typewriter) (timeline : Timeline (Alarm κ))

theorem commits_cancel_le :
    commits (typewriter.cancel timeline).timeline ≤ commits timeline := by
  unfold cancel cancelTimer
  cases typewriter.timer with
  | none => exact Nat.le_refl _
  | some number => exact Playback.commits_cancel_le timeline number

private theorem commits_setTimer :
    commits (typewriter.setTimer .strike timeline).timeline = commits timeline :=
  commits_later timeline _ _ rfl

private theorem commits_start_le (text : String) :
    commits (typewriter.start .strike text timeline).2.timeline ≤ commits timeline := by
  have cancelled := typewriter.commits_cancel_le timeline
  unfold start
  dsimp only
  split
  · exact cancelled
  · split
    · exact cancelled
    · rw [commits_setTimer]
      exact cancelled

end Typewriter

namespace Player

variable (player : Player κ)

private theorem commits_typeLine_le (dialogue : Dialogue) :
    commits (player.typeLine dialogue).timeline ≤ commits player.timeline := by
  unfold typeLine
  simp only [heed_timeline]
  exact player.typewriter.commits_start_le _ dialogue.text

private theorem commits_enterDialogue_le :
    commits player.enterDialogue.timeline ≤ commits player.timeline := by
  unfold enterDialogue
  split
  · exact player.typewriter.commits_cancel_le _
  · next dialogue _ =>
      dsimp only
      unfold typeLine?
      split
      · exact Nat.le_refl _
      · split
        · exact Nat.le_refl _
        · exact commits_typeLine_le _ _

private theorem commits_awaitClear (generation : Nat) (timing : Timing) :
    commits (player.awaitClear generation timing).timeline = commits player.timeline := by
  unfold awaitClear clear
  split
  · split
    · rfl
    · exact commits_later _ _ _ rfl
  · rfl

private theorem commits_commit_le (generation : Nat) (target : Int) (timing : Timing) :
    commits (player.commit generation target timing).timeline ≤ commits player.timeline := by
  unfold commit
  split
  · rw [commits_awaitClear]
    exact commits_enterDialogue_le _
  · exact Nat.le_refl _

def ring (timer : Timer (Alarm κ)) : Player κ :=
  match timer.payload with
  | .strike generation => player.strike generation
  | .commit generation target timing => player.commit generation target timing
  | .clear generation => player.clear generation
  | .ring _ => player

def remaining : Nat :=
  player.typewriter.reveal.total - player.typewriter.reveal.revealed

def rank : Nat ×ₗ Nat ×ₗ Nat :=
  toLex (commits player.timeline, toLex (player.remaining, player.timeline.pending.length))

theorem rank_lt {less more : Player κ}
    (smaller : commits less.timeline < commits more.timeline ∨
      commits less.timeline ≤ commits more.timeline ∧
        (less.remaining < more.remaining ∨ less.remaining ≤ more.remaining ∧
          less.timeline.pending.length < more.timeline.pending.length)) :
    less.rank < more.rank := by
  unfold rank
  simp only [Prod.Lex.toLex_lt_toLex]
  omega

private theorem strike_cases (generation : Nat) :
    (player.strike generation).timeline = player.timeline ∧
        (player.strike generation).remaining ≤ player.remaining ∨
      commits (player.strike generation).timeline = commits player.timeline ∧
        (player.strike generation).remaining < player.remaining := by
  unfold strike remaining
  simp only [heed_timeline, heed_typewriter, withTyped]
  unfold Typewriter.strike
  split
  · dsimp only
    split
    · left
      exact ⟨rfl, player.typewriter.reveal.left_step_le⟩
    · next unfinished =>
        right
        rw [Typewriter.commits_setTimer]
        obtain ⟨revealed, left⟩ := player.typewriter.reveal.step_of_not_complete
          (Bool.not_eq_true _ ▸ unfinished)
        simp only [Typewriter.setTimer, Reveal.step_total, revealed, true_and]
        omega
  · exact .inl ⟨rfl, Nat.le_refl _⟩

/-- Every timer that goes off makes the rank smaller. -/
theorem rank_ring_lt {time : Int} {timer : Timer (Alarm κ)} {timeline : Timeline (Alarm κ)}
    (taken : player.timeline.takeDue? time = some (timer, timeline)) :
    (({ player with timeline } : Player κ).ring timer).rank < player.rank := by
  have shorter : player.timeline.pending = timer :: timeline.pending := by
    unfold Timeline.takeDue? at taken
    split at taken
    · contradiction
    · next first rest waiting =>
        split at taken
        · simp only [Option.some.injEq, Prod.mk.injEq] at taken
          obtain ⟨rfl, rfl⟩ := taken
          exact waiting
        · contradiction
  have fewer : commits player.timeline =
      commits timeline + if timer.payload.isCommit then 1 else 0 := by
    simp [commits, shorter, List.countP_cons]
  have length : player.timeline.pending.length = timeline.pending.length + 1 := by
    simp [shorter]
  apply rank_lt
  unfold ring
  split
  · next generation payload =>
      have cases := ({ player with timeline } : Player κ).strike_cases generation
      have same : ({ player with timeline } : Player κ).remaining = player.remaining := rfl
      rw [payload] at fewer
      simp only [Alarm.isCommit] at fewer
      rcases cases with ⟨timelineSame, _⟩ | ⟨commitsSame, _⟩
      · rw [timelineSame]
        dsimp only
        omega
      · rw [commitsSame]
        dsimp only
        omega
  · next generation target timing payload =>
      have kept := ({ player with timeline } : Player κ).commits_commit_le generation target timing
      rw [payload] at fewer
      simp only [Alarm.isCommit, if_true] at fewer
      dsimp only at kept
      omega
  · next generation payload =>
      rw [payload] at fewer
      simp only [Alarm.isCommit] at fewer
      unfold clear remaining
      split <;> dsimp only [emit] <;> omega
  · next cue payload =>
      rw [payload] at fewer
      simp only [Alarm.isCommit] at fewer
      unfold remaining
      dsimp only
      omega

def settle (player : Player κ) (time : Int) : Player κ :=
  { player with timeline := { player.timeline with now := time } }

/-- Makes the timers go off that are due by a time, and leaves the clock there. Gives how many
they were. -/
def drain (time : Int) (player : Player κ) : Nat × Player κ :=
  match _taken : player.timeline.takeDue? time with
  | none => (0, player.settle time)
  | some (timer, timeline) =>
      let drained := drain time (({ player with timeline } : Player κ).ring timer)
      (drained.1 + 1, drained.2)
termination_by player.rank
decreasing_by exact rank_ring_lt player _taken

theorem drain_idle {time : Int} {player : Player κ}
    (idle : player.timeline.takeDue? time = none) :
    drain time player = (0, player.settle time) := by
  rw [drain]
  split
  · rfl
  · next taken => simp [idle] at taken

theorem drain_fire {time : Int} {player : Player κ} {timer : Timer (Alarm κ)}
    {timeline : Timeline (Alarm κ)}
    (taken : player.timeline.takeDue? time = some (timer, timeline)) :
    drain time player =
      ((drain time (({ player with timeline } : Player κ).ring timer)).1 + 1,
        (drain time (({ player with timeline } : Player κ).ring timer)).2) := by
  rw [drain]
  split
  · next idle => simp [taken] at idle
  · next other _ same =>
      rw [taken] at same
      cases same
      rfl

theorem now_drain (time : Int) (player : Player κ) : (drain time player).2.timeline.now = time := by
  induction player using drain.induct time with
  | case1 player idle => rw [drain_idle idle]; rfl
  | case2 player timer timeline taken ih => rw [drain_fire taken]; exact ih

private theorem rank_drain_le (time : Int) (player : Player κ) :
    (drain time player).2.rank ≤ player.rank := by
  induction player using drain.induct time with
  | case1 player idle => rw [drain_idle idle]; exact le_refl _
  | case2 player timer timeline taken ih =>
      rw [drain_fire taken]
      exact ih.trans (rank_ring_lt player taken).le

theorem rank_drain_lt {time : Int} {player : Player κ}
    (due : player.timeline.nextDue? = some time) :
    (drain (max player.timeline.now time) player).2.rank < player.rank := by
  obtain ⟨_, timeline, taken⟩ := Timeline.exists_takeDue due (le_max_right player.timeline.now time)
  rw [drain_fire taken]
  exact (rank_drain_le _ _).trans_lt (rank_ring_lt player taken)

def flush (limit : Int) (ran : Nat) (player : Player κ) : Nat × Player κ :=
  if limit ≤ ran then (ran, player)
  else
    match _due : player.timeline.nextDue? with
    | none => (ran, player)
    | some time =>
        let drained := drain (max player.timeline.now time) player
        flush limit (ran + drained.1) drained.2
termination_by player.rank
decreasing_by exact rank_drain_lt _due

theorem flush_enough {limit : Int} {ran : Nat} {player : Player κ} (enough : limit ≤ ran) :
    flush limit ran player = (ran, player) := by
  rw [flush, if_pos enough]

theorem flush_idle {limit : Int} {ran : Nat} {player : Player κ} (more : ¬ limit ≤ ran)
    (idle : player.timeline.nextDue? = none) : flush limit ran player = (ran, player) := by
  rw [flush, if_neg more]
  split
  · rfl
  · next due => simp [idle] at due

theorem flush_more {limit : Int} {ran : Nat} {player : Player κ} {time : Int}
    (more : ¬ limit ≤ ran) (due : player.timeline.nextDue? = some time) :
    flush limit ran player =
      flush limit (ran + (drain (max player.timeline.now time) player).1)
        (drain (max player.timeline.now time) player).2 := by
  rw [flush, if_neg more]
  split
  · next idle => simp [due] at idle
  · next other same =>
      rw [due] at same
      cases same
      rfl

def respond (player : Player κ) : Request κ → Answer × Player κ
  | .start => (.flag player.start.1, player.start.2)
  | .advance => (.flag player.advance.1, player.advance.2)
  | .choose choiceId => (.flag (player.choose choiceId).1, (player.choose choiceId).2)
  | .restart => (.flag player.restart.1, player.restart.2)
  | .startTyping => (.flag player.startTyping.1, player.startTyping.2)
  | .skipTyping => (.flag player.skipTyping.1, player.skipTyping.2)
  | .update time =>
      let drained := drain (max player.timeline.now time) player
      (.count drained.1, drained.2)
  | .flush limit =>
      let flushed := flush limit 0 player
      (.count flushed.1, flushed.2)
  | _ => (.nothing, player)

end Player

end VisualNovel.Playback
