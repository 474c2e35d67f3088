import VisualNovel.Proofs.Playback.Player.Course

/-!
# Where a player gets to

The place of a player changes by the moves of the playback alone. What the clock
does about it is to put the scene in place that a transition under way awaits; and
the end is never reached by the clock.
-/

set_option autoImplicit false

namespace VisualNovel.Playback

open VisualNovel.Clock VisualNovel.Novel

variable {κ : Type}

def awaited? (phase : Option (Timer (Alarm κ))) : Option Int :=
  phase.bind fun timer =>
    match timer.payload with
    | .commit _ target _ => some target
    | _ => none

namespace Player

variable {player next : Player κ} {phase following : Option (Timer (Alarm κ))} {target : Int}

structure Lands (player next : Player κ) (target : Int) : Prop where
  place : next.place = (target, 0)
  told : ∃ more, next.seen = more ++ player.seen ∧
    ∃ sight ∈ more, sight.event = .transitionCommit target

theorem Lands.after {middle : Player κ} (lands : middle.Lands next target)
    (told : ∃ more, middle.seen = more ++ player.seen) : player.Lands next target := by
  obtain ⟨since, seenSince, sight, member, landed⟩ := lands.told
  obtain ⟨more, seen⟩ := told
  refine ⟨lands.place, since ++ more, ?_, sight, List.mem_append_left _ member, landed⟩
  rw [seenSince, seen, List.append_assoc]

theorem Lands.before {last : Player κ} (lands : player.Lands next target)
    (place : last.place = next.place) (told : ∃ more, last.seen = more ++ next.seen) :
    player.Lands last target := by
  obtain ⟨since, seenSince, sight, member, landed⟩ := lands.told
  obtain ⟨more, seen⟩ := told
  refine ⟨place.trans lands.place, more ++ since, ?_, sight, List.mem_append_right _ member,
    landed⟩
  rw [seen, seenSince, List.append_assoc]

theorem Arrives.lands {timing : Timing} (arrives : Arrives player next target timing following) :
    player.Lands next target ∧ awaited? following = none := by
  obtain ⟨ending, typed, told, seen, onward, _, names, _⟩ := arrives.told
  have named : Event.transitionCommit target ∈ told.map (·.event) := by
    rw [names]
    simp [arrivalEvents]
  obtain ⟨sight, member, landed⟩ := List.mem_map.mp named
  refine ⟨⟨arrives.place, ending ++ (typed ++ told), by rw [seen]; simp, sight,
    by simp [member], landed⟩, ?_⟩
  cases onward with
  | wait _ _ payload => simp [awaited?, payload]
  | done _ => rfl

/-- What the clock does about the place of a player that waits for a phase. -/
inductive Passes (player : Player κ) (phase : Option (Timer (Alarm κ))) (next : Player κ)
    (following : Option (Timer (Alarm κ))) : Prop where
  | remains : next.place = player.place → awaited? following = awaited? phase →
      Passes player phase next following
  | lands {target : Int} : awaited? phase = some target → awaited? following = none →
      player.Lands next target → Passes player phase next following

theorem Tick.passes (tick : Tick (player, phase) (next, following)) :
    player.Passes phase next following := by
  cases tick with
  | settle _ => exact .remains rfl rfl
  | types _ types => exact .remains types.stays.place rfl
  | arrives _ _ payload arrives =>
      obtain ⟨lands, done⟩ := arrives.lands
      exact .lands (by simp [awaited?, payload]) done (lands.after ⟨[], rfl⟩)
  | ends _ _ payload =>
      rw [clear_eq]
      exact .remains rfl (by simp [awaited?, payload])

/-- The clock moves the place of a player only to the scene that is awaited. -/
theorem Ticks.passes (ticks : player.Ticks phase next following) :
    player.Passes phase next following := by
  refine (ticks.invariant (fun state reached => (∃ more, state.seen = more ++ player.seen) ∧
    player.Passes phase state reached) ⟨⟨[], rfl⟩, .remains rfl rfl⟩ ?_).2
  rintro middle next reached following ⟨told, held⟩ tick
  obtain ⟨since, seen⟩ := tick.continues.told
  have toldNext : ∃ more, next.seen = more ++ player.seen := by
    obtain ⟨more, before⟩ := told
    exact ⟨since ++ more, by rw [seen, before, List.append_assoc]⟩
  refine ⟨toldNext, ?_⟩
  -- the clock lands a player once at most: afterwards nothing is awaited
  cases held with
  | remains place same =>
      cases tick.passes with
      | remains placeNext sameNext =>
          exact .remains (placeNext.trans place) (sameNext.trans same)
      | lands waited done lands => exact .lands (same ▸ waited) done (lands.after told)
  | lands waited done lands =>
      cases tick.passes with
      | remains placeNext sameNext =>
          exact .lands waited (sameNext.trans done) (lands.before placeNext ⟨since, seen⟩)
      | lands waitedNext _ _ => exact absurd (waitedNext.symm.trans done) (by simp)

/-- A player that leaves for a scene awaits it, or has got there at once. -/
theorem Leaves.lands {made : Request κ} {ready : Player κ}
    (leaves : player.Leaves made target ready)
    (departs : Departs (ready.embark target) next target (player.timingOf target) following) :
    (next.place = player.place ∧ awaited? following = some target) ∨
      (player.Lands next target ∧ awaited? following = none) := by
  obtain ⟨more, seen, _⟩ := leaves.goesOn.2
  have told : ∃ more, (ready.embark target).seen = more ++ player.seen :=
    ⟨_ :: more, congrArg (List.cons _) seen⟩
  cases departs with
  | wait _ _ payload same =>
      have here : ready.place = player.place := congrArg Position.place leaves.same.1
      left
      rw [same]
      exact ⟨here, by simp [awaited?, payload]⟩
  | arrive _ arrives =>
      obtain ⟨lands, done⟩ := arrives.lands
      exact .inr ⟨lands.after told, done⟩

inductive Fares (player : Player κ) (phase : Option (Timer (Alarm κ))) (made : Request κ)
    (answer : Answer) (next : Player κ) (following : Option (Timer (Alarm κ))) : Prop where
  | remains : next.place = player.place →
      awaited? following = awaited? phase ∨ awaited? following = none →
      Fares player phase made answer next following
  | lands {target : Int} : awaited? phase = some target → awaited? following = none →
      player.Lands next target → Fares player phase made answer next following
  | line : made = .advance → answer = .flag true → player.Ended → player.hasNextLine = true →
      awaited? following = none →
      next.place = (player.position.scene, player.position.dialogue + 1) →
      Fares player phase made answer next following
  | leaves {target : Int} {ready : Player κ} : player.position.finished = false →
      player.position.transitioning = false → player.Leaves made target ready →
      (next.place = player.place ∧ awaited? following = some target) ∨
        (player.Lands next target ∧ awaited? following = none) →
      Fares player phase made answer next following
  | restarts : made = .restart → answer = .flag true → player.position.finished = true →
      awaited? following = none → next.place = (0, 0) →
      Fares player phase made answer next following

/-- What a request does about the place is accounted for. -/
theorem Coherent.fares {strike : Option (Timer (Alarm κ))} {made : Request κ} {answer : Answer}
    (coherent : player.Coherent strike phase)
    (turned : player.Turned phase made answer next following) :
    player.Fares phase made answer next following := by
  cases turned with
  | types types => exact .remains types.stays.place (.inl rfl)
  | ticks ticks =>
      cases ticks.passes with
      | remains place same => exact .remains place (.inl same)
      | lands waited done lands => exact .lands waited done lands
  | line ended more stays _ =>
      obtain rfl := coherent.phase_eq_none ended.still
      exact .line rfl rfl ended more rfl stays.place
  | leaves unfinished still leaves departs =>
      exact .leaves unfinished still leaves (leaves.lands departs)
  | finishes _ _ _ => exact .remains rfl (.inr rfl)
  | restarts finished stays _ => exact .restarts rfl rfl finished rfl stays.place

private theorem types_skipTyping (player : Player κ) : Types player player.skipTyping.2 := by
  unfold skipTyping
  cases skipped : player.skip? with
  | none => exact .refl player
  | some next => exact types_skip skipped

theorem advance_place_of_isTyping (typing : player.position.isTyping = true) :
    player.advance.2.place = player.place := by
  unfold advance
  rw [if_pos typing]
  split
  · rfl
  · exact (types_skipTyping player).stays.place

theorem Tick.finished (tick : Tick (player, phase) (next, following))
    (unfinished : player.position.finished = false) : next.position.finished = false := by
  cases tick with
  | settle _ => exact unfinished
  | types _ types => exact types.stays.finished.trans unfinished
  | arrives _ _ _ arrives => exact arrives.unfinished
  | ends _ _ _ =>
      rw [clear_eq]
      exact unfinished

theorem Ticks.finished (ticks : player.Ticks phase next following)
    (unfinished : player.position.finished = false) : next.position.finished = false :=
  ticks.invariant (fun state _ => state.position.finished = false) unfinished
    fun held tick => tick.finished held

theorem Departs.finished {ready : Player κ} {timing : Timing}
    (departs : Departs (ready.embark target) next target timing following)
    (unfinished : ready.position.finished = false) : next.position.finished = false := by
  cases departs with
  | wait _ _ _ same =>
      rw [same]
      exact unfinished
  | arrive _ arrives => exact arrives.unfinished

/-- The end is reached from the last line of the last scene alone, by going on from there. -/
theorem Turned.finished {made : Request κ} {answer : Answer}
    (turned : player.Turned phase made answer next following)
    (unfinished : player.position.finished = false) (finished : next.position.finished = true) :
    made = .advance ∧ answer = .flag true ∧ player.Ended ∧ player.hasNextLine = false ∧
      (player.novel.scenes.length : Int) ≤ player.position.scene + 1 := by
  have impossible : next.position.finished ≠ false := by simp [finished]
  cases turned with
  | types types => exact absurd (types.stays.finished.trans unfinished) impossible
  | ticks ticks => exact absurd (ticks.finished unfinished) impossible
  | line _ _ stays _ => exact absurd (stays.finished.trans unfinished) impossible
  | leaves _ _ leaves departs =>
      have ready := (congrArg Position.finished leaves.same.1).trans unfinished
      exact absurd (departs.finished ready) impossible
  | finishes ended last further => exact ⟨rfl, rfl, ended, last, further⟩
  | restarts ended _ _ => exact absurd (ended.symm.trans unfinished) (by simp)

end Player

end VisualNovel.Playback
