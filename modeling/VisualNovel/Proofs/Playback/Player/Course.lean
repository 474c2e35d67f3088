import VisualNovel.Proofs.Playback.Player.Turns

/-!
# The course of a transition

Where a transition stands that began at some time, with everything seen since: it
waits for its first phase at the old place, for its second at the new one, or has
ended. Every tick of the clock and every request leads on along this course, and
each phase ends exactly when it should.
-/

set_option autoImplicit false

namespace VisualNovel.Playback

open VisualNovel.Clock VisualNovel.Novel

/-- A transition with the place and the reading of the clock where it began. -/
structure Departure where
  clock : Int
  origin : Int × Int
  target : Int
  timing : Timing

namespace Departure

variable (departure : Departure)

/-- When the new scene is to be in place. A phase that is to last less than no time lasts none. -/
def arrival : Int :=
  departure.clock + max 0 departure.timing.commit

def ending : Int :=
  departure.arrival + max 0 departure.timing.clear

def Calm (place : Int × Int) (sights : List Sight) : Prop :=
  ∀ sight ∈ sights, sight.event.isTyping = true ∧ sight.position.place = place ∧
    sight.position.transitioning = true

/-- Sights of an arrival: all that is told of it, at the time and the place it should be. -/
structure Arrival (novel : Novel) (sights : List Sight) : Prop where
  events : sights.map (·.event) = Player.arrivalEvents novel departure.target
  there : ∀ sight ∈ sights, sight.At departure.arrival (departure.target, 0) true

def Shown (novel : Novel) (sights : List Sight) : Prop :=
  ∃ waited arrived typed, sights = waited ++ arrived ++ typed ∧
    Calm departure.origin waited ∧ departure.Arrival novel arrived ∧
    Calm (departure.target, 0) typed

theorem Calm.append {place : Int × Int} {first second : List Sight} (calm : Calm place first)
    (calmToo : Calm place second) : Calm place (first ++ second) := by
  intro sight member
  rcases List.mem_append.mp member with member | member
  · exact calm sight member
  · exact calmToo sight member

theorem Calm.reverse {place : Int × Int} {sights : List Sight} (calm : Calm place sights) :
    Calm place sights.reverse :=
  fun sight member => calm sight (List.mem_reverse.mp member)

theorem Shown.append {departure : Departure} {novel : Novel} {sights more : List Sight}
    (shown : departure.Shown novel sights) (calm : Calm (departure.target, 0) more) :
    departure.Shown novel (sights ++ more) := by
  obtain ⟨waited, arrived, typed, rfl, calmBefore, arrival, calmSince⟩ := shown
  exact ⟨waited, arrived, typed ++ more, by simp, calmBefore, arrival, calmSince.append calm⟩

end Departure

namespace Player

variable {κ : Type} {player next : Player κ} {strike phase following : Option (Timer (Alarm κ))}
  {departure : Departure} {novel : Novel} {sights : List Sight}

/-- Where a transition stands, with what has been seen since it began, the latest first. -/
inductive Course (departure : Departure) (novel : Novel) (player : Player κ) :
    Option (Timer (Alarm κ)) → List Sight → Prop where
  | waiting {timer : Timer (Alarm κ)} {sights : List Sight} :
      player.novel = novel → player.place = departure.origin →
      player.position.transitioning = true → timer.due = departure.arrival →
      timer.payload = .commit player.generation departure.target departure.timing →
      Departure.Calm departure.origin sights →
      Course departure novel player (some timer) sights
  | showing {timer : Timer (Alarm κ)} {sights : List Sight} :
      player.place = (departure.target, 0) → player.position.transitioning = true →
      departure.arrival ≤ player.now → timer.due = departure.ending →
      timer.payload = .clear player.generation → departure.Shown novel sights.reverse →
      Course departure novel player (some timer) sights
  | ended {phase : Option (Timer (Alarm κ))} {after before : List Sight} {ending : Sight} :
      departure.ending ≤ player.now → ending.event = .transitionEnd departure.target →
      ending.At departure.ending (departure.target, 0) false →
      departure.Shown novel before.reverse →
      Course departure novel player phase (after ++ ending :: before)

theorem Typing.calm {place : Int × Int} (typing : player.Typing sights)
    (here : player.place = place) (transitioning : player.position.transitioning = true) :
    Departure.Calm place sights := by
  intro sight member
  obtain ⟨complete, there⟩ := typing sight member
  exact ⟨complete, there.place.trans here, there.transitioning.trans transitioning⟩

/-- Where the scene is put in place, the transition is on its course past the arrival. -/
theorem Arrives.course {ready : Player κ}
    (arrives : Arrives ready next departure.target departure.timing following)
    (known : ready.novel = novel) (transitioning : ready.position.transitioning = true)
    (due : ready.now = departure.arrival) (calm : Departure.Calm departure.origin sights) :
    ∃ more, next.seen = more ++ ready.seen ∧
      Course departure novel next following (more ++ sights) := by
  obtain ⟨ending, typed, told, seen, onward, typing, names, there⟩ := arrives.told
  have place : (ready.swap departure.target).place = (departure.target, 0) := rfl
  have shown : departure.Shown novel (typed ++ (told ++ sights)).reverse := by
    refine ⟨sights.reverse, told.reverse, typed.reverse, by simp, calm.reverse, ⟨?_, ?_⟩,
      (typing.calm place transitioning).reverse⟩
    · rw [List.map_reverse, names, List.reverse_reverse, known]
    · intro sight member
      have seen := there sight (List.mem_reverse.mp member)
      rwa [due, transitioning] at seen
  refine ⟨ending ++ (typed ++ told), by rw [seen]; simp, ?_⟩
  have now : next.now = departure.arrival := arrives.now.trans due
  have still := arrives.transitioning
  cases onward with
  | wait takesTime timerDue payload =>
      have ending : departure.ending = departure.arrival + departure.timing.clear := by
        unfold Departure.ending
        omega
      refine .showing arrives.place still (by omega) ?_ ?_ (by simpa using shown)
      · omega
      · rw [payload, arrives.generation]
  | done instant =>
      have scene : next.position.scene = departure.target :=
        congrArg Prod.fst arrives.place
      have ending : departure.ending = departure.arrival := by
        unfold Departure.ending
        omega
      have ended : Course departure novel next none
          ([] ++ ⟨ready.now, .transitionEnd next.position.scene, next.position⟩ ::
            (typed ++ (told ++ sights))) :=
        .ended (by omega) (congrArg Event.transitionEnd scene)
          ⟨due.trans ending.symm, arrives.place, still⟩ shown
      rwa [List.append_assoc, List.append_assoc]

/-- Typing leaves a transition on its course. -/
theorem Course.types {ready : Player κ} (course : Course departure novel player phase sights)
    (types : Types ready next) (ahead : player.now ≤ ready.now)
    (known : ready.novel = player.novel) (same : ready.generation = player.generation)
    (position : ready.position = player.position) (seen : ready.seen = player.seen) :
    ∃ more, next.seen = more ++ player.seen ∧
      Course departure novel next phase (more ++ sights) := by
  obtain ⟨more, told, typing⟩ := types.told
  have stays := types.stays
  have now : player.now ≤ next.now := by
    rw [stays.now]
    exact ahead
  have place : ready.place = player.place := congrArg Position.place position
  have transitioning := congrArg Position.transitioning position
  refine ⟨more, seen ▸ told, ?_⟩
  cases course with
  | waiting known' here under due payload calm =>
      refine .waiting (stays.novel.trans (known.trans known'))
        (stays.place.trans (place.trans here))
        (stays.transitioning.trans (transitioning.trans under)) due ?_ ?_
      · rw [payload, stays.generation, same]
      · exact (typing.calm (place.trans here) (transitioning.trans under)).append calm
  | showing here under late due payload shown =>
      refine .showing (stays.place.trans (place.trans here))
        (stays.transitioning.trans (transitioning.trans under)) (late.trans now) due ?_ ?_
      · rw [payload, stays.generation, same]
      · rw [List.reverse_append]
        exact shown.append (typing.calm (place.trans here) (transitioning.trans under)).reverse
  | ended late event there shown =>
      rw [← List.append_assoc]
      exact .ended (late.trans now) event there shown

theorem Course.keepsEnded {after before : List Sight} {ending : Sight}
    (late : departure.ending ≤ player.now)
    (event : ending.event = .transitionEnd departure.target)
    (there : ending.At departure.ending (departure.target, 0) false)
    (shown : departure.Shown novel before.reverse) (ahead : player.now ≤ next.now)
    (told : ∃ more, next.seen = more ++ player.seen) :
    ∃ more, next.seen = more ++ player.seen ∧
      Course departure novel next following (more ++ (after ++ ending :: before)) := by
  obtain ⟨more, seen⟩ := told
  refine ⟨more, seen, ?_⟩
  rw [← List.append_assoc]
  exact .ended (late.trans ahead) event there shown

/-- The clock leads a transition along its course. -/
theorem Course.tick (course : Course departure novel player phase sights)
    (tick : Tick (player, phase) (next, following)) :
    ∃ more, next.seen = more ++ player.seen ∧
      Course departure novel next following (more ++ sights) := by
  have now := tick.now_le
  have told := tick.continues.told
  -- a phase that goes off tells from its timer which stage it belongs to
  cases tick with
  | settle ahead => exact course.types (.refl (player.settle _)) ahead rfl rfl rfl rfl
  | types ahead types => exact course.types types ahead rfl rfl rfl rfl
  | @arrives _ _ timeline timer target timing _ ahead due payload arrives =>
      cases course with
      | waiting known here under timerDue payloadToo calm =>
          rw [payloadToo] at payload
          cases payload
          exact arrives.course known under (due.trans timerDue) calm
      | showing _ _ _ _ payloadToo _ =>
          rw [payloadToo] at payload
          contradiction
      | ended late event there shown =>
          exact Course.keepsEnded late event there shown now told
  | @ends _ timeline timer ahead due payload =>
      have cleared := ({ player with timeline } : Player κ).clear_eq
      cases course with
      | waiting _ _ _ _ payloadToo _ =>
          rw [payloadToo] at payload
          contradiction
      | showing here under late timerDue _ shown =>
          refine ⟨[⟨timeline.now, .transitionEnd player.position.scene, { player.position with
            transitioning := false, style := none }⟩], congrArg Player.seen cleared, ?_⟩
          have reached := due.trans timerDue
          have ended : Course departure novel
              (({ player with timeline } : Player κ).clear player.generation) none
              ([] ++ ⟨timeline.now, .transitionEnd player.position.scene, { player.position with
                transitioning := false, style := none }⟩ :: sights) := by
            refine .ended ?_ ?_ ⟨reached, here, rfl⟩ shown
            · rw [clear_now]
              exact reached.ge
            · exact congrArg Event.transitionEnd (congrArg Prod.fst here)
          exact ended
      | ended late event there shown =>
          exact Course.keepsEnded late event there shown now told

theorem Ticks.course (ticks : player.Ticks phase next following)
    (course : Course departure novel player phase sights) :
    ∃ more, next.seen = more ++ player.seen ∧
      Course departure novel next following (more ++ sights) := by
  refine ticks.invariant (fun state phase => ∃ more, state.seen = more ++ player.seen ∧
    Course departure novel state phase (more ++ sights)) ⟨[], rfl, course⟩ ?_
  rintro before after phase following ⟨more, seen, course⟩ tick
  obtain ⟨further, told, course⟩ := course.tick tick
  refine ⟨further ++ more, ?_, ?_⟩
  · rw [told, seen, List.append_assoc]
  · rw [List.append_assoc]
    exact course

theorem embark_now (player : Player κ) (target : Int) :
    (player.embark target).now = player.now := by
  show (player.stopTyping.timeline.cancel? _).now = player.now
  rw [Timeline.cancel?_now]
  exact (types_stopTyping player).stays.now

private theorem embark_seen (player : Player κ) (target : Int) :
    ∃ start : Sight, (player.embark target).seen = start :: player.seen ∧
      start.event = .transitionStart player.position.scene target (player.styleOf target) ∧
      start.At player.now player.place true :=
  ⟨_, rfl, rfl, player.embark_now target, rfl, rfl⟩

/-- A transition that begins is on its course. -/
theorem Departs.course {ready : Player κ} (departure : Departure)
    (departs : Departs (ready.embark departure.target) next departure.target departure.timing
      following)
    (clock : departure.clock = ready.now) (origin : departure.origin = ready.place) :
    ∃ more, next.seen = more ++ (ready.embark departure.target).seen ∧
      Course departure ready.novel next following more := by
  have now := ready.embark_now departure.target
  have nothing : Departure.Calm departure.origin [] :=
    fun _ member => absurd member List.not_mem_nil
  cases departs with
  | wait takesTime due payload same =>
      refine ⟨[], by rw [same]; rfl, ?_⟩
      rw [same]
      refine .waiting rfl origin.symm rfl ?_ payload nothing
      rw [due, now, ← clock]
      unfold Departure.arrival
      omega
  | arrive instant arrives =>
      have due : (ready.embark departure.target).now = departure.arrival := by
        unfold Departure.arrival
        omega
      obtain ⟨more, seen, course⟩ := arrives.course rfl rfl due nothing
      rw [List.append_nil] at course
      exact ⟨more, seen, course⟩

/-! ## Requests during a transition -/

theorem Departs.goesOn {ready : Player κ} {target : Int} {timing : Timing}
    (departs : Departs ready next target timing following) :
    next.now = ready.now ∧ Continues ready next := by
  cases departs with
  | wait _ _ _ same =>
      rw [same]
      exact ⟨Timeline.later_now _ _ _, .refl ready⟩
  | arrive _ arrives => exact ⟨arrives.now, arrives.continues⟩

theorem Leaves.goesOn {made : Request κ} {target : Int} {ready : Player κ}
    (leaves : player.Leaves made target ready) :
    ready.now = player.now ∧ Continues player ready := by
  cases leaves with
  | advance _ _ _ => exact ⟨rfl, .refl player⟩
  | choose _ _ _ => exact ⟨rfl, continues_emit player rfl⟩

/-- A request goes on with the playback or leaves for another scene. -/
theorem Turned.goesOn {made : Request κ} {answer : Answer}
    (turned : player.Turned phase made answer next following) :
    player.now ≤ next.now ∧
      (Continues player next ∨
        player.position.finished = false ∧ player.position.transitioning = false ∧
          answer = .flag true ∧ ∃ target ready, player.Leaves made target ready ∧
          Departs (ready.embark target) next target (player.timingOf target) following) := by
  cases turned with
  | types types => exact ⟨types.stays.now.ge, .inl types.continues⟩
  | ticks ticks => exact ⟨ticks.now_le, .inl ticks.continues⟩
  | line _ _ stays continues => exact ⟨stays.now.ge, .inl continues⟩
  | @leaves made target ready _ _ unfinished still leaves departs =>
      have now := leaves.goesOn.1
      have nowNext := departs.goesOn.1
      have embarked := ready.embark_now target
      exact ⟨by omega, .inr ⟨unfinished, still, rfl, target, ready, leaves, departs⟩⟩
  | finishes _ _ _ =>
      exact ⟨(types_stopTyping player).stays.now.ge,
        .inl (continues_emit (player.stopTyping.withPosition fun position =>
          { position with finished := true }) rfl)⟩
  | restarts _ stays continues =>
      have rewound : player.rewind.now = player.now := by
        show (player.stopTyping.timeline.cancel? _).now = player.now
        rw [Timeline.cancel?_now]
        exact (types_stopTyping player).stays.now
      exact ⟨by rw [stays.now, rewound], .inl continues⟩

private theorem Turned.exists_told {made : Request κ} {answer : Answer}
    (turned : player.Turned phase made answer next following) :
    ∃ more, next.seen = more ++ player.seen := by
  rcases turned.goesOn.2 with continues | ⟨_, _, _, target, ready, leaves, departs⟩
  · exact continues.told
  · obtain ⟨ahead, seenReady⟩ := leaves.goesOn.2.told
    obtain ⟨more, seen⟩ := departs.goesOn.2.told
    obtain ⟨start, embarked, _⟩ := ready.embark_seen target
    refine ⟨more ++ (start :: ahead), ?_⟩
    rw [seen, embarked, seenReady, List.append_assoc, List.cons_append]

theorem Course.still (course : Course departure novel player phase sights)
    (still : player.position.transitioning = false) (ahead : player.now ≤ next.now)
    (told : ∃ more, next.seen = more ++ player.seen) :
    ∃ more, next.seen = more ++ player.seen ∧
      Course departure novel next following (more ++ sights) := by
  cases course with
  | waiting _ _ under _ _ _ => exact absurd (still.symm.trans under) Bool.false_ne_true
  | showing _ under _ _ _ _ => exact absurd (still.symm.trans under) Bool.false_ne_true
  | ended late event there shown =>
      exact Course.keepsEnded late event there shown ahead told

/-- A request leaves a transition under way on its course. -/
theorem Coherent.course {made : Request κ} {answer : Answer}
    (coherent : player.Coherent strike phase)
    (turned : player.Turned phase made answer next following)
    (course : Course departure novel player phase sights) :
    ∃ more, next.seen = more ++ player.seen ∧
      Course departure novel next following (more ++ sights) := by
  have ahead := turned.goesOn.1
  have told := turned.exists_told
  cases turned with
  | types types => exact course.types types (le_refl _) rfl rfl rfl rfl
  | ticks ticks => exact ticks.course course
  | line ended _ _ _ => exact course.still ended.still ahead told
  | leaves _ still _ _ => exact course.still still ahead told
  | finishes ended _ _ => exact course.still ended.still ahead told
  | restarts finished _ _ =>
      have still : player.position.transitioning = false := by
        rw [coherent.crossing.transitioning, (coherent.closed finished).2.1]
        rfl
      exact course.still still ahead told

/-! ## Where a transition begins -/

def departureTo (player : Player κ) (target : Int) : Departure :=
  ⟨player.now, player.place, target, player.timingOf target⟩

theorem Leaves.same {made : Request κ} {target : Int} {ready : Player κ}
    (leaves : player.Leaves made target ready) :
    ready.position = player.position ∧ ready.styleOf target = player.styleOf target := by
  cases leaves <;> exact ⟨rfl, rfl⟩

/-- A player that leaves for another scene tells once that a transition begins, where and when
it leaves, and the transition sets out on its course. -/
theorem Leaves.begins {made : Request κ} {target : Int} {ready : Player κ}
    (leaves : player.Leaves made target ready)
    (departs : Departs (ready.embark target) next target (player.timingOf target) following) :
    ∃ ahead start rest, next.seen = (ahead ++ start :: rest).reverse ++ player.seen ∧
      start.event = .transitionStart player.position.scene target (player.styleOf target) ∧
      start.At player.now player.place true ∧
      (∀ sight ∈ ahead ++ rest, sight.event.begins = false) ∧
      Course (player.departureTo target) player.novel next following rest.reverse := by
  obtain ⟨now, told, seenReady, fineReady⟩ := leaves.goesOn
  obtain ⟨_, more, seenNext, fine⟩ := departs.goesOn
  obtain ⟨start, embarked, event, there⟩ := ready.embark_seen target
  obtain ⟨position, style⟩ := leaves.same
  have here : ready.place = player.place := congrArg Position.place position
  obtain ⟨since, seenSince, course⟩ :=
    Departs.course (player.departureTo target) departs now.symm here.symm
  obtain rfl := List.append_cancel_right (seenNext.symm.trans seenSince)
  refine ⟨told.reverse, start, more.reverse, ?_, ?_, ?_, ?_, ?_⟩
  · rw [seenNext, embarked, seenReady]
    simp
  · rw [event, position, style]
  · rw [← now, ← here]
    exact there
  · intro sight member
    rcases List.mem_append.mp member with member | member
    · exact fineReady sight (List.mem_reverse.mp member)
    · exact fine sight (List.mem_reverse.mp member)
  · rw [leaves.constant.1] at course
    rwa [List.reverse_reverse]

end Player

end VisualNovel.Playback
