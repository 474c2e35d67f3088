import Mathlib.Logic.Relation
import VisualNovel.Proofs.Playback.Player.Clock
import VisualNovel.Proofs.Playback.Player.Coherence

/-!
# What the clock does to a coherent player

Moving the clock on is a sequence of ticks: a character is revealed, a transition
puts its new scene in place or ends, or the clock is left where nothing is due.
Every tick keeps a player coherent, so what each tick keeps is kept by every move
of the clock.
-/

set_option autoImplicit false

namespace VisualNovel.Playback.Player

open VisualNovel.Clock VisualNovel.Novel

variable {κ : Type} {player next : Player κ} {strike phase following : Option (Timer (Alarm κ))}

/-- The least that the clock does to a player waiting for a phase: the new player and the phase
it waits for then. -/
inductive Tick : Player κ × Option (Timer (Alarm κ)) → Player κ × Option (Timer (Alarm κ)) → Prop
  | settle {player : Player κ} {phase : Option (Timer (Alarm κ))} {time : Int} :
      player.now ≤ time → Tick (player, phase) (player.settle time, phase)
  | types {player next : Player κ} {timeline : Timeline (Alarm κ)}
      {phase : Option (Timer (Alarm κ))} :
      player.now ≤ timeline.now → Types { player with timeline } next →
      Tick (player, phase) (next, phase)
  | arrives {player next : Player κ} {timeline : Timeline (Alarm κ)} {timer : Timer (Alarm κ)}
      {target : Int} {timing : Timing} {following : Option (Timer (Alarm κ))} :
      player.now ≤ timeline.now → timeline.now = timer.due →
      timer.payload = .commit player.generation target timing →
      Arrives { player with timeline } next target timing following →
      Tick (player, some timer) (next, following)
  | ends {player : Player κ} {timeline : Timeline (Alarm κ)} {timer : Timer (Alarm κ)} :
      player.now ≤ timeline.now → timeline.now = timer.due →
      timer.payload = .clear player.generation →
      Tick (player, some timer)
        (({ player with timeline } : Player κ).clear player.generation, none)

def Ticks (player : Player κ) (phase : Option (Timer (Alarm κ))) (next : Player κ)
    (following : Option (Timer (Alarm κ))) : Prop :=
  Relation.ReflTransGen Tick (player, phase) (next, following)

theorem Ticks.invariant (ticks : player.Ticks phase next following)
    (holds : Player κ → Option (Timer (Alarm κ)) → Prop) (before : holds player phase)
    (keeps : ∀ {player next : Player κ} {phase following : Option (Timer (Alarm κ))},
      holds player phase → Tick (player, phase) (next, following) → holds next following) :
    holds next following := by
  have reached : ∀ state, Relation.ReflTransGen Tick (player, phase) state →
      holds state.1 state.2 := by
    intro state reached
    induction reached with
    | refl => exact before
    | tail _ tick ih => exact keeps ih tick
  exact reached (next, following) ticks

theorem Tick.constant (tick : Tick (player, phase) (next, following)) :
    next.novel = player.novel ∧ next.timings = player.timings := by
  cases tick with
  | settle _ => exact ⟨rfl, rfl⟩
  | types _ types => exact ⟨types.stays.novel, types.stays.timings⟩
  | arrives _ _ _ arrives => exact ⟨arrives.novel, arrives.timings⟩
  | ends _ _ _ =>
      unfold Player.clear
      rw [if_pos rfl]
      exact ⟨rfl, rfl⟩

theorem Ticks.constant (ticks : player.Ticks phase next following) :
    next.novel = player.novel ∧ next.timings = player.timings := by
  refine ticks.invariant (fun state _ =>
    state.novel = player.novel ∧ state.timings = player.timings) ⟨rfl, rfl⟩ ?_
  intro before after _ _ held tick
  obtain ⟨novel, timings⟩ := tick.constant
  exact ⟨novel.trans held.1, timings.trans held.2⟩

theorem Tick.now_le (tick : Tick (player, phase) (next, following)) : player.now ≤ next.now := by
  cases tick with
  | settle ahead => exact ahead
  | types ahead types =>
      rw [types.stays.now]
      exact ahead
  | arrives ahead _ _ arrives =>
      rw [arrives.now]
      exact ahead
  | ends ahead _ _ =>
      rw [clear_now]
      exact ahead

theorem Ticks.now_le (ticks : player.Ticks phase next following) : player.now ≤ next.now :=
  ticks.invariant (fun state _ => player.now ≤ state.now) (le_refl _)
    fun held tick => held.trans tick.now_le

theorem Tick.continues (tick : Tick (player, phase) (next, following)) :
    Continues player next := by
  cases tick with
  | settle _ => exact .refl player
  | types _ types => exact types.continues
  | arrives _ _ _ arrives => exact arrives.continues
  | @ends _ timeline _ _ _ _ =>
      rw [clear_eq]
      exact continues_emit ({ player with
        timeline
        transition := none
        position := { player.position with transitioning := false, style := none } } :
          Player κ) rfl

theorem Ticks.continues (ticks : player.Ticks phase next following) : Continues player next :=
  ticks.invariant (fun state _ => Continues player state) (.refl player)
    fun held tick => held.trans tick.continues

theorem Coherent.settle {time : Int} (coherent : player.Coherent strike phase)
    (idle : player.timeline.takeDue? time = none) :
    (player.settle time).Coherent strike phase where
  started := coherent.started
  lined := ⟨⟨coherent.lined.waits.orderly.settle idle, coherent.lined.waits.pending,
    coherent.lined.waits.striking, coherent.lined.waits.phasing, coherent.lined.waits.strikes⟩,
    ⟨coherent.lined.reveals.complete, coherent.lined.reveals.idle, coherent.lined.reveals.busy⟩,
    coherent.lined.length⟩
  placed := coherent.placed
  crossing := coherent.crossing.congr rfl rfl rfl rfl
  closed := coherent.closed

theorem Coherent.unfinished_of_pending {timer : Timer (Alarm κ)}
    (coherent : player.Coherent strike phase) (waiting : timer ∈ player.timeline.pending) :
    player.position.finished = false := by
  rw [Bool.eq_false_iff]
  intro finished
  obtain ⟨rfl, rfl, _⟩ := coherent.closed finished
  exact absurd (coherent.lined.waits.pending.mem_iff.mp waiting) List.not_mem_nil

theorem Coherent.payload_ne_ring {time : Int} {timer : Timer (Alarm κ)}
    {timeline : Timeline (Alarm κ)} (coherent : player.Coherent strike phase)
    (taken : player.timeline.takeDue? time = some (timer, timeline)) (cue : κ) :
    timer.payload ≠ .ring cue := by
  obtain ⟨first, _⟩ := coherent.lined.waits.orderly.takeDue taken
  have member := coherent.lined.waits.pending.mem_iff.mp (first ▸ List.mem_cons_self)
  intro ring
  rcases List.mem_append.mp member with member | member
  · obtain rfl := Option.mem_toList.mp member
    have strikes := (coherent.lined.waits.strikes timer rfl).2
    simp [ring] at strikes
  · obtain rfl := Option.mem_toList.mp member
    cases coherent.crossing.phased timer rfl with
    | commit _ payload _ => simp [ring] at payload
    | clear _ payload => simp [ring] at payload

theorem Coherent.clear {timer : Timer (Alarm κ)} {timeline : Timeline (Alarm κ)}
    (coherent : player.Coherent strike (some timer)) (orderly : timeline.Orderly)
    (pending : timeline.pending.Perm strike.toList) :
    (({ player with timeline } : Player κ).clear player.generation).Coherent strike none := by
  have unfinished : player.position.finished = false := coherent.unfinished_of_pending
    (coherent.lined.waits.pending.mem_iff.mpr (List.mem_append_right _ (.head _)))
  unfold Player.clear
  rw [if_pos rfl]
  have waits : ({ player with timeline, transition := none } : Player κ).Waits strike none :=
    ⟨orderly, by simpa using pending, coherent.lined.waits.striking, rfl,
      coherent.lined.waits.strikes⟩
  refine ⟨coherent.started, coherent.lined.withPhase (waits.congr rfl rfl rfl) rfl rfl rfl rfl rfl,
    coherent.placed, ⟨rfl, rfl, fun _ impossible => by contradiction⟩, ?_⟩
  intro finished
  exact absurd (unfinished.symm.trans finished) Bool.false_ne_true

/-- The timer of a transition puts the scene in place and leaves the player coherent. -/
theorem Coherent.arrive {timer : Timer (Alarm κ)} {timeline : Timeline (Alarm κ)} {target : Int}
    {scene : Scene} (coherent : player.Coherent strike (some timer))
    (orderly : timeline.Orderly) (pending : timeline.pending.Perm strike.toList)
    (found : player.novel.sceneAt? target = some scene) (timing : Timing) :
    ∃ begun following,
      (({ player with timeline } : Player κ).commit player.generation target timing).Coherent
        begun following ∧
      Arrives { player with timeline }
        (({ player with timeline } : Player κ).commit player.generation target timing) target
          timing following := by
  have unfinished : player.position.finished = false := coherent.unfinished_of_pending
    (coherent.lined.waits.pending.mem_iff.mpr (List.mem_append_right _ (.head _)))
  have waits : (({ player with timeline } : Player κ).swap target).Waits strike none :=
    ⟨orderly, pending.trans (.of_eq (List.append_nil _).symm), coherent.lined.waits.striking,
      rfl, coherent.lined.waits.strikes⟩
  exact waits.commit coherent.started unfinished coherent.crossing.transitioning
    coherent.crossing.styled found timing

/-- A timer that goes off leaves a coherent player coherent, and is one tick. -/
theorem Coherent.fire {time : Int} {timer : Timer (Alarm κ)} {timeline : Timeline (Alarm κ)}
    (coherent : player.Coherent strike phase)
    (taken : player.timeline.takeDue? time = some (timer, timeline)) :
    ∃ begun following,
      (({ player with timeline } : Player κ).ring timer).Coherent begun following ∧
      Tick (player, phase) (({ player with timeline } : Player κ).ring timer, following) ∧
      (({ player with timeline } : Player κ).ring timer).now = timer.due := by
  obtain ⟨first, _, now, orderly⟩ := coherent.lined.waits.orderly.takeDue taken
  have ahead : player.now ≤ timeline.now := by
    rw [now]
    exact coherent.lined.waits.orderly.ahead timer (first ▸ List.mem_cons_self)
  have pending := coherent.lined.waits.pending
  have member := pending.mem_iff.mp (first ▸ List.mem_cons_self)
  have unfinished := coherent.unfinished_of_pending (first ▸ List.mem_cons_self)
  rw [first] at pending
  rcases List.mem_append.mp member with member | member
  · -- the next character of the line
    obtain rfl := Option.mem_toList.mp member
    have left := pending.cons_inv
    obtain ⟨_, payload⟩ := coherent.lined.waits.strikes timer rfl
    obtain ⟨begun, lined⟩ := coherent.lined.ring orderly left
    unfold ring
    rw [payload]
    have types := types_strike ({ player with timeline } : Player κ) player.typewriter.generation
    exact ⟨begun, phase, lined.coherent types.stays coherent.started coherent.placed
      (coherent.crossing.congr rfl rfl rfl rfl) unfinished, .types ahead types,
      types.stays.now.trans now⟩
  · -- the next phase of the transition
    obtain rfl := Option.mem_toList.mp member
    have left := (pending.trans List.perm_append_comm).cons_inv
    unfold ring
    cases coherent.crossing.phased timer rfl with
    | @commit target timing scene _ payload found =>
        obtain ⟨begun, following, after, arrives⟩ := coherent.arrive orderly left found timing
        rw [payload]
        exact ⟨begun, following, after, .arrives ahead now payload arrives,
          arrives.now.trans now⟩
    | clear _ payload =>
        rw [payload]
        exact ⟨strike, none, coherent.clear orderly left, .ends ahead now payload,
          (clear_now _ _).trans now⟩

def Rested (player : Player κ) (phase : Option (Timer (Alarm κ))) : Prop :=
  ∀ timer, phase = some timer → player.now < timer.due

theorem Coherent.rested (coherent : player.Coherent strike phase)
    (late : ∀ timer ∈ player.timeline.pending, player.now < timer.due) : player.Rested phase := by
  rintro timer rfl
  exact late timer (coherent.lined.waits.pending.mem_iff.mpr (List.mem_append_right _ (.head _)))

/-- Moving the clock makes one tick after another, until nothing is due. -/
theorem Coherent.drain {time : Int} (coherent : player.Coherent strike phase)
    (ahead : player.now ≤ time) :
    ∃ begun following, (drain time player).2.Coherent begun following ∧
      Ticks player phase (drain time player).2 following ∧
      (drain time player).2.Rested following := by
  induction player using drain.induct time generalizing strike phase with
  | case1 player idle =>
      rw [drain_idle idle]
      have settled := coherent.settle idle
      exact ⟨strike, phase, settled, .single (.settle ahead), settled.rested
        (coherent.lined.waits.orderly.due_of_takeDue_eq_none idle)⟩
  | case2 player timer timeline taken ih =>
      rw [drain_fire taken]
      obtain ⟨begun, following, after, tick, now⟩ := coherent.fire taken
      obtain ⟨_, due, _⟩ := coherent.lined.waits.orderly.takeDue taken
      obtain ⟨begun, following, coherent, ticks, rested⟩ := ih after (by omega)
      exact ⟨begun, following, coherent, .head tick ticks, rested⟩

/-- A flush makes one tick after another. -/
theorem Coherent.flush (limit : Int) (ran : Nat) (coherent : player.Coherent strike phase)
    (rested : player.Rested phase) :
    ∃ begun following, (flush limit ran player).2.Coherent begun following ∧
      Ticks player phase (flush limit ran player).2 following ∧
      (flush limit ran player).2.Rested following := by
  induction ran, player using flush.induct limit generalizing strike phase with
  | case1 ran player enough =>
      rw [flush_enough enough]
      exact ⟨strike, phase, coherent, .refl, rested⟩
  | case2 ran player more idle =>
      rw [flush_idle more idle]
      exact ⟨strike, phase, coherent, .refl, rested⟩
  | case3 ran player more time due drained =>
      rename_i ih
      rw [flush_more more due]
      obtain ⟨begun, following, between, ticks, rested⟩ :=
        coherent.drain (le_max_left player.timeline.now time)
      obtain ⟨begun, following, after, more, rested⟩ := ih between rested
      exact ⟨begun, following, after, ticks.trans more, rested⟩

end VisualNovel.Playback.Player
