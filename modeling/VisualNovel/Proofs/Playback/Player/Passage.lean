import VisualNovel.Proofs.Playback.Player.Remainder

/-!
# How far a transition has come

Whoever listens knows from the events alone whether a transition is under way, to
which scene, and whether the scene is in place already. What the player waits for
is just what is left of that.
-/

set_option autoImplicit false

namespace VisualNovel.Playback

open VisualNovel.Clock VisualNovel.Novel

/-- What is left of a transition: nothing, all of it from here to a scene, or its end. -/
inductive Passage where
  | still
  | leaving (target : Int)
  | arriving
  deriving DecidableEq, Repr

namespace Passage

def after : Passage → Event → Passage
  | _, .transitionStart _ target _ => .leaving target
  | .leaving _, .transitionCommit _ => .arriving
  | _, .transitionEnd _ => .still
  | passage, _ => passage

def timers (novel : Novel) : Passage → Nat
  | .still => 0
  | .leaving target => 2 + novel.openingLength target
  | .arriving => 1

def ofSights (seen : List Sight) : Passage :=
  seen.foldr (fun sight passage => passage.after sight.event) .still

variable {κ : Type}

def ofPhase (phase : Option (Timer (Alarm κ))) : Passage :=
  match phase with
  | none => .still
  | some timer =>
      match timer.payload with
      | .commit _ target _ => .leaving target
      | _ => .arriving

private theorem after_of_isTyping (passage : Passage) {event : Event}
    (typing : event.isTyping = true) :
    passage.after event = passage := by
  cases event <;> first | contradiction | (cases passage <;> rfl)

private theorem after_still {event : Event} (other : event.begins = false) :
    still.after event = still := by
  cases event <;> first | contradiction | rfl

variable {seen told : List Sight}

private theorem ofSights_append (told seen : List Sight) :
    ofSights (told ++ seen) = (told.map (·.event)).reverse.foldl after (ofSights seen) := by
  simp [ofSights, List.foldl_reverse, List.foldr_map]

private theorem ofSights_typing (typing : ∀ sight ∈ told, sight.event.isTyping = true) :
    ofSights (told ++ seen) = ofSights seen := by
  induction told with
  | nil => rfl
  | cons sight told hypothesis =>
      obtain ⟨first, rest⟩ := List.forall_mem_cons.mp typing
      exact (after_of_isTyping _ first).trans (hypothesis rest)

private theorem ofSights_still (none : ofSights seen = still)
    (other : ∀ sight ∈ told, sight.event.begins = false) : ofSights (told ++ seen) = still := by
  induction told with
  | nil => exact none
  | cons sight told hypothesis =>
      obtain ⟨first, rest⟩ := List.forall_mem_cons.mp other
      have before : ofSights (told ++ seen) = still := hypothesis rest
      have later : ofSights (sight :: told ++ seen) =
          (ofSights (told ++ seen)).after sight.event := rfl
      rw [later, before]
      exact after_still first

private theorem foldl_after_arrivalEvents (novel : Novel) (target other : Int) :
    (Player.arrivalEvents novel target).foldl after (leaving other) = arriving := by
  unfold Player.arrivalEvents
  cases novel.dialogueAt? target 0 <;> rfl

end Passage

namespace Player

variable {κ : Type} {player next : Player κ} {strike phase following : Option (Timer (Alarm κ))}
  {target : Int}

/-- The events that were told leave just the phase of a transition that is waited for. -/
def Traced (player : Player κ) (phase : Option (Timer (Alarm κ))) : Prop :=
  Passage.ofSights player.seen = .ofPhase phase

theorem Types.traced (types : Types player next) (traced : player.Traced phase) :
    next.Traced phase := by
  obtain ⟨typed, seen, typing⟩ := types.told
  unfold Traced
  rw [seen, Passage.ofSights_typing fun sight member => (typing sight member).1]
  exact traced

theorem Continues.traced (continues : Continues player next) (traced : player.Traced none) :
    next.Traced none := by
  obtain ⟨more, seen, other⟩ := continues
  unfold Traced
  rw [seen]
  exact Passage.ofSights_still traced other

theorem Arrives.traced {other : Int} {timing : Timing}
    (arrives : Arrives player next target timing following)
    (leaving : Passage.ofSights player.seen = .leaving other) : next.Traced following := by
  obtain ⟨ending, typed, told, seen, onward, typing, names, _⟩ := arrives.told
  have there : Passage.ofSights (typed ++ (told ++ player.seen)) = .arriving := by
    rw [Passage.ofSights_typing fun sight member => (typing sight member).1,
      Passage.ofSights_append, names, List.reverse_reverse, leaving,
      Passage.foldl_after_arrivalEvents]
  unfold Traced
  rw [seen]
  cases onward with
  | wait _ _ payload =>
      rw [List.nil_append, there, Passage.ofPhase, payload]
  | done _ => rfl

theorem Tick.traced (tick : Tick (player, phase) (next, following))
    (traced : player.Traced phase) : next.Traced following := by
  cases tick with
  | settle _ => exact traced
  | types _ types => exact types.traced traced
  | @arrives _ _ _ timer target timing _ _ _ payload arrives =>
      refine @Arrives.traced _ _ _ _ _ target timing arrives ?_
      have leaving : Passage.ofSights player.seen = .ofPhase (some timer) := traced
      rw [leaving, Passage.ofPhase, payload]
  | ends _ _ _ =>
      rw [clear_eq]
      rfl

theorem Ticks.traced (ticks : player.Ticks phase next following)
    (traced : player.Traced phase) : next.Traced following :=
  ticks.invariant Traced traced fun held tick => tick.traced held

theorem Leaves.traced {made : Request κ} {ready : Player κ}
    (leaves : player.Leaves made target ready) :
    Passage.ofSights (ready.embark target).seen = .leaving target := by
  cases leaves <;> rfl

theorem Departs.traced {timing : Timing} (departs : Departs player next target timing following)
    (leaving : Passage.ofSights player.seen = .leaving target) : next.Traced following := by
  cases departs with
  | wait _ _ payload same =>
      have seen : next.seen = player.seen := by
        rw [same]
        rfl
      unfold Traced
      rw [seen, leaving, Passage.ofPhase, payload]
  | arrive _ arrives => exact arrives.traced leaving

/-- What is told on a request leaves just the phase that is waited for then. -/
theorem Coherent.traced {made : Request κ} {answer : Answer}
    (coherent : player.Coherent strike phase) (traced : player.Traced phase)
    (turned : player.Turned phase made answer next following) : next.Traced following := by
  cases turned with
  | types types => exact types.traced traced
  | ticks ticks => exact ticks.traced traced
  | line ended _ _ continues =>
      obtain rfl := coherent.phase_eq_none ended.still
      exact continues.traced traced
  | leaves _ _ leaves departs => exact departs.traced leaves.traced
  | finishes ended _ _ =>
      obtain rfl := coherent.phase_eq_none ended.still
      have ended : Passage.ofSights player.finish.seen = (Passage.ofSights player.seen).after
          (.finished player.position.scene player.position.dialogue) := rfl
      rw [Traced, ended, traced]
      rfl
  | restarts finished _ continues =>
      obtain ⟨_, rfl, _⟩ := coherent.closed finished
      exact continues.traced traced

inductive Accounted (player : Player κ) : Prop where
  | unstarted : player.Unstarted → player.Traced none → Accounted player
  | coherent {strike phase : Option (Timer (Alarm κ))} : player.Coherent strike phase →
      player.Rested phase → player.Traced phase → Accounted player

theorem Accounted.respond (accounted : player.Accounted) (made : Request κ) :
    (player.respond made).2.Accounted := by
  cases accounted with
  | unstarted unstarted traced =>
      rcases unstarted.comes made with ⟨time, still⟩ | ⟨_, nonempty, started⟩
      · rw [still]
        exact .unstarted (unstarted.settle time) traced
      · obtain ⟨begun, coherent, _, continues⟩ := unstarted.start nonempty
        rw [started]
        exact .coherent coherent (fun _ impossible => by contradiction) (continues.traced traced)
  | coherent coherent rested traced =>
      obtain ⟨_, _, after, rested, turned⟩ := coherent.comes rested made
      exact .coherent after rested (coherent.traced traced turned)

theorem Accounted.valid (accounted : player.Accounted) : player.Valid := by
  cases accounted with
  | unstarted unstarted _ => exact .unstarted unstarted
  | coherent coherent _ _ => exact .coherent coherent

/-- What is still to go off is known from the line being typed and from the events. -/
theorem Accounted.remainder_eq (accounted : player.Accounted) :
    player.remainder =
      player.position.unrevealed + (Passage.ofSights player.seen).timers player.novel := by
  unfold remainder
  congr 1
  cases accounted with
  | unstarted unstarted traced =>
      have idle : player.timeline.pending = [] := List.Perm.eq_nil unstarted.waits.pending
      rw [traced, ahead, idle]
      rfl
  | @coherent strike phase coherent _ traced =>
      rw [traced, coherent.lined.ahead_eq]
      cases phase with
      | none => rfl
      | some timer =>
          rw [Option.toList_some, List.map_singleton, List.sum_singleton, Passage.ofPhase]
          cases coherent.crossing.phased timer rfl with
          | commit _ payload _ =>
              rw [payload]
              rfl
          | clear _ payload =>
              rw [payload]
              rfl

end Player

end VisualNovel.Playback
