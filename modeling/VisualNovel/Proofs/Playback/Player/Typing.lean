import VisualNovel.Proofs.Playback.Player
import VisualNovel.Proofs.Playback.Typewriter

/-!
# Typing leaves the course alone

Whatever is done about the line being typed, the player stays where it is: its
place, its transition and its clock are what they were, and it tells of nothing
but lines that are complete.
-/

set_option autoImplicit false

namespace VisualNovel.Playback

open VisualNovel.Clock VisualNovel.Novel

/-- A sight of a place at a time, with a transition under way or not. -/
structure Sight.At (sight : Sight) (clock : Int) (place : Int × Int) (transitioning : Bool) :
    Prop where
  clock : sight.clock = clock
  place : sight.position.place = place
  transitioning : sight.position.transitioning = transitioning

def Event.isTyping : Event → Bool
  | .typingComplete _ _ _ => true
  | _ => false

def Event.begins : Event → Bool
  | .transitionStart _ _ _ => true
  | _ => false

theorem Event.begins_of_isTyping {event : Event} (typing : event.isTyping = true) :
    event.begins = false := by
  cases event <;> first | rfl | contradiction

namespace Player

variable {κ : Type} {player middle next : Player κ}

structure Stays (player next : Player κ) : Prop where
  novel : next.novel = player.novel
  timings : next.timings = player.timings
  now : next.now = player.now
  generation : next.generation = player.generation
  transition : next.transition = player.transition
  started : next.started = player.started
  place : next.place = player.place
  transitioning : next.position.transitioning = player.position.transitioning
  finished : next.position.finished = player.position.finished
  style : next.position.style = player.position.style

theorem Stays.refl (player : Player κ) : Stays player player :=
  ⟨rfl, rfl, rfl, rfl, rfl, rfl, rfl, rfl, rfl, rfl⟩

theorem Stays.trans (first : Stays player middle) (second : Stays middle next) :
    Stays player next where
  novel := second.novel.trans first.novel
  timings := second.timings.trans first.timings
  now := second.now.trans first.now
  generation := second.generation.trans first.generation
  transition := second.transition.trans first.transition
  started := second.started.trans first.started
  place := second.place.trans first.place
  transitioning := second.transitioning.trans first.transitioning
  finished := second.finished.trans first.finished
  style := second.style.trans first.style

theorem Stays.dialogue? (stays : Stays player next) : next.dialogue? = player.dialogue? := by
  have place := stays.place
  simp only [Player.place, Position.place, Prod.mk.injEq] at place
  unfold Player.dialogue? Position.dialogue?
  rw [stays.novel, place.1, place.2]

theorem Stays.scene? (stays : Stays player next) : next.scene? = player.scene? := by
  have place := stays.place
  simp only [Player.place, Position.place, Prod.mk.injEq] at place
  unfold Player.scene? Position.scene?
  rw [stays.novel, place.1]

def Typing (player : Player κ) (sights : List Sight) : Prop :=
  ∀ sight ∈ sights, sight.event.isTyping = true ∧
    sight.At player.now player.place player.position.transitioning

theorem Stays.typing {sights : List Sight} (stays : Stays player next)
    (typing : next.Typing sights) : player.Typing sights := by
  intro sight member
  have seen := typing sight member
  rwa [stays.now, stays.place, stays.transitioning] at seen

structure Types (player next : Player κ) : Prop where
  stays : Stays player next
  told : ∃ sights, next.seen = sights ++ player.seen ∧ player.Typing sights

theorem Types.refl (player : Player κ) : Types player player :=
  ⟨.refl player, [], rfl, fun _ member => absurd member List.not_mem_nil⟩

theorem Types.trans (first : Types player middle) (second : Types middle next) :
    Types player next := by
  obtain ⟨earlier, told, typing⟩ := first.told
  obtain ⟨later, toldLater, typingLater⟩ := second.told
  refine ⟨first.stays.trans second.stays, later ++ earlier, ?_, ?_⟩
  · rw [toldLater, told, List.append_assoc]
  · intro sight member
    rcases List.mem_append.mp member with member | member
    · exact first.stays.typing typingLater sight member
    · exact typing sight member

private theorem types_of_stays (stays : Stays player next) (silent : next.seen = player.seen) :
    Types player next :=
  ⟨stays, [], silent, fun _ member => absurd member List.not_mem_nil⟩

theorem types_withTyped {typed : Typed (Alarm κ)}
    (now : typed.timeline.now = player.timeline.now) : Types player (player.withTyped typed) :=
  types_of_stays ⟨rfl, rfl, now, rfl, rfl, rfl, rfl, rfl, rfl, rfl⟩ rfl

theorem stays_emit (player : Player κ) (event : Event) : Stays player (player.emit event) :=
  ⟨rfl, rfl, rfl, rfl, rfl, rfl, rfl, rfl, rfl, rfl⟩

theorem types_reveal (player : Player κ) (revealed textLength : Int) :
    Types player (player.withPosition fun position =>
      { position with revealed, textLength }) :=
  types_of_stays ⟨rfl, rfl, rfl, rfl, rfl, rfl, rfl, rfl, rfl, rfl⟩ rfl

theorem types_heed (player : Player κ) (signals : List Signal) :
    Types player (player.heed signals) := by
  induction signals generalizing player with
  | nil => exact .refl player
  | cons signal signals ih =>
      cases signal with
      | progress revealed =>
          exact (types_reveal player revealed player.position.textLength).trans (ih _)
      | complete skipped =>
          refine Types.trans ?_ (ih _)
          refine ⟨⟨rfl, rfl, rfl, rfl, rfl, rfl, rfl, rfl, rfl, rfl⟩, [_], rfl, ?_⟩
          intro sight member
          obtain rfl := List.mem_singleton.mp member
          exact ⟨rfl, rfl, rfl, rfl⟩

theorem types_stopTyping (player : Player κ) : Types player player.stopTyping := by
  apply types_withTyped
  simp [Typewriter.cancel_eq]

theorem stopTyping_complete (player : Player κ) :
    player.stopTyping.typewriter.reveal.complete = true := by
  simp [stopTyping, Typewriter.cancel_eq, withTyped]

theorem types_typeLine (player : Player κ) (dialogue : Dialogue) :
    Types player (player.typeLine dialogue) := by
  refine (types_reveal player 0 dialogue.text.length).trans (Types.trans ?_ (types_heed _ _))
  exact types_withTyped (by simp [withPosition])

theorem types_strike (player : Player κ) (generation : Nat) :
    Types player (player.strike generation) :=
  (types_withTyped (by simp)).trans (types_heed _ _)

theorem typeLine?_eq_some (typed : player.typeLine? = some next) :
    ∃ dialogue, player.dialogue? = some dialogue ∧ player.started = true ∧
      player.position.finished = false ∧ next = player.typeLine dialogue := by
  unfold typeLine? at typed
  split at typed
  · contradiction
  · next dialogue found =>
      split at typed
      · contradiction
      · next active =>
          simp only [Bool.or_eq_true, Bool.not_eq_true', not_or, Bool.not_eq_false,
            Bool.not_eq_true] at active
          exact ⟨dialogue, found, active.1, active.2, (Option.some.inj typed).symm⟩

theorem types_skip (skipped : player.skip? = some next) : Types player next := by
  unfold skip? at skipped
  rw [Typewriter.skip?_eq] at skipped
  split at skipped
  · split at skipped
    · contradiction
    · obtain rfl := Option.some.inj skipped
      exact (types_withTyped (by simp)).trans (types_heed _ _)
  · contradiction

def Continues (player next : Player κ) : Prop :=
  ∃ sights, next.seen = sights ++ player.seen ∧ ∀ sight ∈ sights, sight.event.begins = false

theorem Continues.refl (player : Player κ) : Continues player player :=
  ⟨[], rfl, fun _ member => absurd member List.not_mem_nil⟩

theorem Continues.trans (first : Continues player middle) (second : Continues middle next) :
    Continues player next := by
  obtain ⟨earlier, told, fine⟩ := first
  obtain ⟨later, toldLater, fineLater⟩ := second
  refine ⟨later ++ earlier, by rw [toldLater, told, List.append_assoc], ?_⟩
  intro sight member
  rcases List.mem_append.mp member with member | member
  · exact fineLater sight member
  · exact fine sight member

theorem Continues.told (continues : Continues player next) :
    ∃ more, next.seen = more ++ player.seen := by
  obtain ⟨more, seen, _⟩ := continues
  exact ⟨more, seen⟩

theorem continues_emit (player : Player κ) {event : Event} (other : event.begins = false) :
    Continues player (player.emit event) := by
  refine ⟨[_], rfl, ?_⟩
  intro sight member
  obtain rfl := List.mem_singleton.mp member
  exact other

theorem Types.continues (types : Types player next) : Continues player next := by
  obtain ⟨sights, told, typing⟩ := types.told
  exact ⟨sights, told, fun sight member => Event.begins_of_isTyping (typing sight member).1⟩

end Player

end VisualNovel.Playback
