import VisualNovel.Proofs.Playback.Player.Line

/-!
# Coherent players

A started player that is coherent stands in the novel, its line, its transition and
its end agree with one another and with the timers it waits for. What each of its
moves makes of a coherent player is said here once.
-/

set_option autoImplicit false

namespace VisualNovel.Playback.Player

open VisualNovel.Clock VisualNovel.Novel

variable {κ : Type} {player next : Player κ} {strike phase : Option (Timer (Alarm κ))}

def Placed (player : Player κ) : Prop :=
  ∃ scene, player.scene? = some scene ∧
    (player.position.dialogue = 0 ∨
      0 < player.position.dialogue ∧ player.position.dialogue < scene.dialogues.length)

inductive Phase (player : Player κ) (timer : Timer (Alarm κ)) : Prop where
  | commit {target : Int} {timing : Timing} {scene : Scene} :
      timer.label = "transition.commit" →
      timer.payload = .commit player.generation target timing →
      player.novel.sceneAt? target = some scene → Phase player timer
  | clear :
      timer.label = "transition.clear" → timer.payload = .clear player.generation →
      Phase player timer

/-- A transition is under way exactly while its next phase is waited for. -/
structure Crossing (player : Player κ) (phase : Option (Timer (Alarm κ))) : Prop where
  transitioning : player.position.transitioning = phase.isSome
  styled : player.position.style.isSome = phase.isSome
  phased : ∀ timer, phase = some timer → player.Phase timer

structure Coherent (player : Player κ) (strike phase : Option (Timer (Alarm κ))) : Prop where
  started : player.started = true
  lined : player.Lined strike phase
  placed : player.Placed
  crossing : player.Crossing phase
  closed : player.position.finished = true →
    strike = none ∧ phase = none ∧ player.dialogue?.any Dialogue.hasChoices = false

theorem Stays.placed (stays : Stays player next) (placed : player.Placed) : next.Placed := by
  have place := stays.place
  simp only [Player.place, Position.place, Prod.mk.injEq] at place
  unfold Placed
  rw [stays.scene?, place.2]
  exact placed

theorem Phase.congr {timer : Timer (Alarm κ)} (generation : next.generation = player.generation)
    (novel : next.novel = player.novel) (phased : player.Phase timer) : next.Phase timer := by
  cases phased with
  | commit label payload found =>
      exact .commit label (generation ▸ payload) (novel ▸ found)
  | clear label payload => exact .clear label (generation ▸ payload)

theorem Crossing.congr (crossing : player.Crossing phase) (novel : next.novel = player.novel)
    (generation : next.generation = player.generation)
    (transitioning : next.position.transitioning = player.position.transitioning)
    (style : next.position.style = player.position.style) : next.Crossing phase where
  transitioning := transitioning.trans crossing.transitioning
  styled := (congrArg Option.isSome style).trans crossing.styled
  phased := fun timer same => (crossing.phased timer same).congr generation novel

theorem Stays.crossing (stays : Stays player next) (crossing : player.Crossing phase) :
    next.Crossing phase :=
  crossing.congr stays.novel stays.generation stays.transitioning stays.style

theorem Lined.coherent (lined : next.Lined strike phase) (stays : Stays player next)
    (started : player.started = true) (placed : player.Placed)
    (crossing : player.Crossing phase) (unfinished : player.position.finished = false) :
    next.Coherent strike phase where
  started := stays.started.trans started
  lined := lined
  placed := stays.placed placed
  crossing := stays.crossing crossing
  closed := fun finished => by
    rw [stays.finished, unfinished] at finished
    contradiction

theorem Lined.withPhase {other : Option (Timer (Alarm κ))} (lined : player.Lined strike phase)
    (waits : next.Waits strike other) (typewriter : next.typewriter = player.typewriter)
    (novel : next.novel = player.novel) (place : next.place = player.place)
    (revealed : next.position.revealed = player.position.revealed)
    (length : next.position.textLength = player.position.textLength) :
    next.Lined strike other := by
  have line : next.dialogue? = player.dialogue? := by
    simp only [Player.place, Position.place, Prod.mk.injEq] at place
    unfold Player.dialogue? Position.dialogue?
    rw [novel, place.1, place.2]
  refine ⟨waits, ⟨?_, ?_, ?_⟩, ?_⟩
  · rw [typewriter]
    exact lined.reveals.complete
  · rw [revealed, length]
    exact lined.reveals.idle
  · rw [line, typewriter, revealed]
    exact lined.reveals.busy
  · unfold lineLength
    rw [length, line]
    exact lined.length

theorem Waits.setPhase (waits : player.Waits strike none) (delay : Int) (label : String)
    (alarm : Alarm κ) :
    (player.setPhase delay label alarm).Waits strike
      (some ⟨player.now + max 0 delay, player.timeline.issued, label, alarm⟩) := by
  have pending := waits.orderly.later_pending delay label alarm
  refine ⟨waits.orderly.later _ _ _, ?_, waits.striking, ?_, waits.strikes⟩
  · have known := waits.pending
    rw [Option.toList_none, List.append_nil] at known
    exact (pending.trans (known.cons _)).trans (List.perm_append_singleton _ _).symm
  · simp [Player.setPhase, Timeline.later_eq waits.orderly.isOpen]

theorem Waits.cancelTransition (waits : player.Waits strike phase) :
    player.cancelTransition.Waits strike none := by
  have pending := waits.pending.trans List.perm_append_comm
  refine ⟨waits.orderly.cancel? _, ?_, waits.striking, rfl, waits.strikes⟩
  rw [Option.toList_none, List.append_nil]
  unfold Player.cancelTransition
  rw [waits.phasing]
  exact waits.orderly.cancel?_pending pending

/-! ## Arriving in a scene -/

def arrivalEvents (novel : Novel) (target : Int) : List Event :=
  .transitionCommit target :: .sceneEnter target (novel.sceneAt? target) ::
    ((novel.dialogueAt? target 0).map fun dialogue => .dialogueEnter target 0 dialogue).toList

theorem Waits.enterScene (waits : player.Waits strike phase)
    (started : player.started = true) (unfinished : player.position.finished = false)
    (beginning : player.position.dialogue = 0) :
    ∃ begun, player.enterScene.Lined begun phase ∧ Stays player player.enterScene ∧
      player.Tells player.enterScene
        (.sceneEnter player.position.scene player.scene? :: player.lineEvents) := by
  have same : (player.withPosition fun position => { position with dialogue := 0 }) = player := by
    unfold withPosition
    rw [← beginning]
  unfold Player.enterScene
  rw [same]
  have waiting : (player.emit (.sceneEnter player.position.scene player.scene?)).Waits
      strike phase := waits.congr rfl rfl rfl
  obtain ⟨begun, lined, stays, tells⟩ := waiting.enterDialogue started unfinished
  exact ⟨begun, lined, (stays_emit _ _).trans stays, tells.emit⟩

theorem placed_of_beginning {scene : Scene} (found : player.scene? = some scene)
    (beginning : player.position.dialogue = 0) : player.Placed :=
  ⟨scene, found, .inl beginning⟩

def swap (player : Player κ) (target : Int) : Player κ :=
  { player with
    transition := none
    position := { player.position with scene := target, dialogue := 0 } }

private theorem commit_eq (target : Int) (timing : Timing) :
    player.commit player.generation target timing =
      (((player.swap target).emit (.transitionCommit target)).enterScene).awaitClear
        player.generation timing := by
  simp [commit, swap]

theorem clear_eq (player : Player κ) :
    player.clear player.generation =
      ({ player with
          transition := none
          position := { player.position with transitioning := false, style := none } } :
        Player κ).emit (.transitionEnd player.position.scene) :=
  if_pos rfl

theorem clear_now (player : Player κ) (generation : Nat) :
    (player.clear generation).now = player.now := by
  unfold clear
  split <;> rfl

inductive Onward (player next : Player κ) (timing : Timing) :
    Option (Timer (Alarm κ)) → List Sight → Prop where
  | wait {timer : Timer (Alarm κ)} :
      0 < timing.clear → timer.due = player.now + timing.clear →
      timer.payload = .clear player.generation →
      Onward player next timing (some timer) []
  | done : timing.clear ≤ 0 →
      Onward player next timing none
        [⟨player.now, .transitionEnd next.position.scene, next.position⟩]

structure Arrives (player next : Player κ) (target : Int) (timing : Timing)
    (phase : Option (Timer (Alarm κ))) : Prop where
  novel : next.novel = player.novel
  timings : next.timings = player.timings
  now : next.now = player.now
  generation : next.generation = player.generation
  place : next.place = (target, 0)
  unfinished : next.position.finished = false
  transitioning : next.position.transitioning = phase.isSome
  told : ∃ ending typed told, next.seen = ending ++ (typed ++ (told ++ player.seen)) ∧
    Onward player next timing phase ending ∧
    (player.swap target).Typing typed ∧
    told.map (·.event) = (arrivalEvents player.novel target).reverse ∧
    ∀ sight ∈ told, sight.At player.now (target, 0) player.position.transitioning

private theorem begins_arrivalEvents (novel : Novel) (target : Int) :
    ∀ event ∈ arrivalEvents novel target, event.begins = false := by
  unfold arrivalEvents
  cases novel.dialogueAt? target 0 <;> simp [Event.begins]

theorem Arrives.continues {target : Int} {timing : Timing}
    (arrives : Arrives player next target timing phase) : Continues player next := by
  obtain ⟨ending, typed, told, seen, onward, typing, names, _⟩ := arrives.told
  refine ⟨ending ++ (typed ++ told), by rw [seen]; simp, ?_⟩
  intro sight member
  rcases List.mem_append.mp member with member | member
  · cases onward with
    | wait _ _ _ => exact absurd member List.not_mem_nil
    | done _ =>
        obtain rfl := List.mem_singleton.mp member
        rfl
  · rcases List.mem_append.mp member with member | member
    · exact Event.begins_of_isTyping (typing sight member).1
    · apply begins_arrivalEvents player.novel target
      rw [← List.mem_reverse, ← names]
      exact List.mem_map_of_mem member

/-- A scene that is put in place is entered, and the transition goes on from there. -/
theorem Waits.commit {target : Int} {scene : Scene}
    (waits : (player.swap target).Waits strike none)
    (started : player.started = true) (unfinished : player.position.finished = false)
    (transitioning : player.position.transitioning = true)
    (styled : player.position.style.isSome = true)
    (found : player.novel.sceneAt? target = some scene) (timing : Timing) :
    ∃ begun phase,
      (player.commit player.generation target timing).Coherent begun phase ∧
      player.Arrives (player.commit player.generation target timing) target timing phase := by
  rw [commit_eq]
  have waiting : ((player.swap target).emit (.transitionCommit target)).Waits strike none :=
    waits.congr rfl rfl rfl
  obtain ⟨begun, lined, stays, tells⟩ := waiting.enterScene started unfinished rfl
  have told := tells.emit
  generalize ((player.swap target).emit (.transitionCommit target)).enterScene = arrived at *
  have found : ((player.swap target).emit (.transitionCommit target)).scene? = some scene := found
  have placed : arrived.Placed := stays.placed (placed_of_beginning found rfl)
  obtain ⟨typed, told, seen, typing, names, there⟩ := told
  have same : player.generation = arrived.generation := stays.generation.symm
  have now : arrived.now = player.now := stays.now
  have novel : arrived.novel = player.novel := stays.novel
  have place : arrived.place = (target, 0) := stays.place
  have still : arrived.position.finished = false := stays.finished.trans unfinished
  unfold awaitClear
  rw [if_pos same]
  by_cases instant : timing.clear ≤ 0
  · rw [if_pos instant]
    unfold clear
    rw [if_pos same]
    have ended : (({ arrived with
        transition := none
        position := { arrived.position with transitioning := false, style := none } } :
          Player κ).emit (.transitionEnd arrived.position.scene)).Lined begun none :=
      lined.withPhase (lined.waits.congr rfl rfl lined.waits.phasing.symm) rfl rfl rfl rfl rfl
    refine ⟨begun, none, ⟨?_, ended, placed, ⟨rfl, rfl, fun _ impossible => by contradiction⟩, ?_⟩,
      ⟨novel, stays.timings, now, same.symm, place, still, rfl, _, typed, told, ?_, .done instant,
        typing, names, there⟩⟩
    · exact stays.started.trans started
    · intro finished
      exact absurd (still.symm.trans finished) Bool.false_ne_true
    · rw [← now]
      exact congrArg (List.cons _) seen
  · rw [if_neg instant]
    have delay : max 0 timing.clear = timing.clear := by omega
    have waitsFor := lined.waits.setPhase timing.clear "transition.clear"
      (.clear player.generation)
    refine ⟨begun, some _, ⟨?_, lined.withPhase waitsFor rfl rfl rfl rfl rfl, placed, ⟨?_, ?_, ?_⟩,
      ?_⟩, ⟨novel, stays.timings, (Timeline.later_now _ _ _).trans now, same.symm, place, still,
        stays.transitioning.trans transitioning, [], typed, told, seen, .wait (by omega) ?_ rfl,
        typing, names, there⟩⟩
    · exact stays.started.trans started
    · exact stays.transitioning.trans transitioning
    · exact (congrArg Option.isSome stays.style).trans styled
    · intro timer which
      obtain rfl := Option.some.inj which
      exact .clear rfl (by rw [same]; rfl)
    · intro finished
      exact absurd (still.symm.trans finished) Bool.false_ne_true
    · rw [delay, now]

end VisualNovel.Playback.Player
