import VisualNovel.Proofs.Playback.Player.Typing

/-!
# The line being typed

A player waits for two timers at most: one for the next character while a line is
typed, and one for the next phase while a transition is under way. The typewriter
and the position agree on the line and on how much of it is revealed. Whatever is
done about the line keeps this so.
-/

set_option autoImplicit false

namespace VisualNovel.Playback.Player

open VisualNovel.Clock VisualNovel.Novel

variable {κ : Type} {player next : Player κ} {strike phase : Option (Timer (Alarm κ))}

/-- The timers a player waits for: for the next character and for the next phase, no other. -/
structure Waits (player : Player κ) (strike phase : Option (Timer (Alarm κ))) : Prop where
  orderly : player.timeline.Orderly
  pending : player.timeline.pending.Perm (strike.toList ++ phase.toList)
  striking : player.typewriter.timer = strike.map (·.number)
  phasing : player.transition = phase.map (·.number)
  strikes : ∀ timer, strike = some timer → timer.label = "typewriter" ∧
    timer.payload = .strike player.typewriter.generation

structure Reveals (player : Player κ) (strike : Option (Timer (Alarm κ))) : Prop where
  complete : player.typewriter.reveal.complete = strike.isNone
  idle : strike = none → player.position.revealed = player.position.textLength
  busy : strike ≠ none → ∃ dialogue, player.dialogue? = some dialogue ∧
    player.typewriter.reveal.text = dialogue.text ∧
    player.position.revealed = player.typewriter.reveal.revealed ∧
    player.typewriter.reveal.revealed < player.typewriter.reveal.total

def lineLength (player : Player κ) : Int :=
  (player.dialogue?.map fun dialogue => (dialogue.text.length : Int)).getD 0

structure Lined (player : Player κ) (strike phase : Option (Timer (Alarm κ))) : Prop where
  waits : player.Waits strike phase
  reveals : player.Reveals strike
  length : player.position.textLength = player.lineLength

theorem Waits.congr (waits : player.Waits strike phase)
    (timeline : next.timeline = player.timeline)
    (typewriter : next.typewriter = player.typewriter)
    (transition : next.transition = player.transition) : next.Waits strike phase where
  orderly := timeline ▸ waits.orderly
  pending := timeline ▸ waits.pending
  striking := typewriter ▸ waits.striking
  phasing := transition ▸ waits.phasing
  strikes := typewriter ▸ waits.strikes

theorem Waits.heed (waits : player.Waits strike phase) (signals : List Signal) :
    (player.heed signals).Waits strike phase :=
  waits.congr (player.heed_timeline signals) (player.heed_typewriter signals)
    (types_heed player signals).stays.transition

theorem Waits.cancelled (waits : player.Waits strike phase) :
    (player.timeline.cancel? player.typewriter.timer).Orderly ∧
      (player.timeline.cancel? player.typewriter.timer).pending.Perm phase.toList := by
  rw [waits.striking]
  exact ⟨waits.orderly.cancel? _, waits.orderly.cancel?_pending waits.pending⟩

theorem Waits.released (waits : player.Waits strike phase) {typewriter : Typewriter}
    {timeline : Timeline (Alarm κ)} (orderly : timeline.Orderly)
    (pending : timeline.pending.Perm phase.toList) (released : typewriter.timer = none) :
    (player.withTyped ⟨typewriter, timeline⟩).Waits none phase where
  orderly := orderly
  pending := pending
  striking := released
  phasing := waits.phasing
  strikes := fun _ impossible => by contradiction

theorem Waits.stopTyping (waits : player.Waits strike phase) :
    player.stopTyping.Waits none phase := by
  obtain ⟨orderly, pending⟩ := waits.cancelled
  unfold Player.stopTyping
  rw [Typewriter.cancel_eq]
  exact waits.released orderly pending rfl

theorem Waits.setTimer (waits : player.Waits none phase) :
    ∃ timer, (player.withTyped
      (player.typewriter.setTimer .strike player.timeline)).Waits (some timer) phase := by
  have pending := waits.orderly.later_pending player.typewriter.interval "typewriter"
    (.strike player.typewriter.generation)
  rw [Typewriter.setTimer_eq _ _ _ waits.orderly.isOpen]
  refine ⟨⟨_, player.timeline.issued, _, _⟩, waits.orderly.later _ _ _,
    pending.trans (waits.pending.cons _), rfl, waits.phasing, ?_⟩
  intro timer same
  obtain rfl := Option.some.inj same
  exact ⟨rfl, rfl⟩

/-- A line that is typed waits for one character at a time. -/
theorem Waits.typeLine (waits : player.Waits strike phase) {dialogue : Dialogue}
    (found : player.dialogue? = some dialogue) :
    ∃ begun, (player.typeLine dialogue).Lined begun phase := by
  have line : (player.typeLine dialogue).dialogue? = some dialogue :=
    (types_typeLine player dialogue).stays.dialogue?.trans found
  have length : (player.typeLine dialogue).lineLength = dialogue.text.length := by
    simp [lineLength, line]
  obtain ⟨orderly, pending⟩ := waits.cancelled
  by_cases atOnce : dialogue.text.length = 0 ∨ player.typewriter.interval ≤ 0
  · obtain ⟨reveal, complete, start⟩ :=
      player.typewriter.start_at_once .strike player.timeline atOnce
    refine ⟨none, ?_⟩
    unfold Player.typeLine at length ⊢
    rw [start] at length ⊢
    refine ⟨?_, ⟨complete, fun _ => rfl, fun impossible => absurd rfl impossible⟩, length.symm⟩
    exact (waits.released orderly pending rfl).congr rfl rfl rfl
  · obtain ⟨nonempty, takesTime⟩ := not_or.mp atOnce
    have start := player.typewriter.start_later .strike player.timeline nonempty takesTime
    have released := waits.released orderly pending (rfl : ({ player.typewriter with
      reveal := Reveal.ofText dialogue.text
      timer := none
      generation := player.typewriter.generation + 1 } : Typewriter).timer = none)
    obtain ⟨timer, set⟩ := released.setTimer
    have typing : (Reveal.ofText dialogue.text).complete = false := by
      simpa [Reveal.ofText, String.isEmpty_iff] using nonempty
    refine ⟨some timer, ?_⟩
    unfold Player.typeLine at length line ⊢
    rw [start] at length line ⊢
    refine ⟨set.congr rfl rfl rfl, ⟨typing, fun impossible => by contradiction, fun _ => ?_⟩,
      length.symm⟩
    exact ⟨dialogue, line, rfl, rfl, Nat.pos_of_ne_zero nonempty⟩

/-- A line that is skipped waits for no character. -/
theorem Lined.skip (lined : player.Lined strike phase) (skipped : player.skip? = some next) :
    next.Lined none phase := by
  have length : next.position.textLength = player.position.textLength ∧
      next.position.revealed = player.position.textLength ∧
      next.typewriter.reveal.complete = true ∧ next.Waits none phase := by
    obtain ⟨orderly, pending⟩ := lined.waits.cancelled
    unfold skip? at skipped
    rw [Typewriter.skip?_eq] at skipped
    split at skipped
    · split at skipped
      · contradiction
      · obtain rfl := Option.some.inj skipped
        exact ⟨rfl, rfl, rfl, (lined.waits.released orderly pending rfl).heed _⟩
    · contradiction
  obtain ⟨length, revealed, complete, waits⟩ := length
  refine ⟨waits, ⟨complete, fun _ => revealed.trans length.symm, fun impossible =>
    absurd rfl impossible⟩, ?_⟩
  rw [length, lined.length]
  unfold lineLength
  rw [(types_skip skipped).stays.dialogue?]

theorem Lined.exists_skip (lined : player.Lined strike phase) (started : player.started = true)
    (typing : player.position.isTyping = true) : ∃ next, player.skip? = some next := by
  have complete : player.typewriter.reveal.complete = false := by
    rw [lined.reveals.complete]
    cases same : strike with
    | some timer => rfl
    | none =>
        have idle := lined.reveals.idle same
        simp [Position.isTyping, idle] at typing
  unfold skip?
  rw [Typewriter.skip?_eq]
  simp [started, typing, complete]

/-- The timer of the line being typed goes off: a character is revealed, and the timer is set
again unless it was the last. -/
theorem Lined.ring {timer : Timer (Alarm κ)} {timeline : Timeline (Alarm κ)}
    (lined : player.Lined (some timer) phase) (orderly : timeline.Orderly)
    (pending : timeline.pending.Perm phase.toList) :
    ∃ following, (({ player with timeline } : Player κ).strike
      player.typewriter.generation).Lined following phase := by
  obtain ⟨dialogue, found, text, revealed, within⟩ := lined.reveals.busy (by simp)
  have line : (({ player with timeline } : Player κ).strike
      player.typewriter.generation).dialogue? = some dialogue :=
    (types_strike _ _).stays.dialogue?.trans found
  have length : (({ player with timeline } : Player κ).strike
      player.typewriter.generation).lineLength = player.position.textLength := by
    rw [lined.length]
    simp only [lineLength, line, found]
  have released := lined.waits.released orderly pending (rfl : ({ player.typewriter with
    reveal := player.typewriter.reveal.step 1
    timer := none } : Typewriter).timer = none)
  unfold Player.strike at length line ⊢
  cases complete : (player.typewriter.reveal.step 1).complete with
  | true =>
      have struck := player.typewriter.strike_last Alarm.strike timeline complete
      dsimp only at length ⊢
      rw [struck] at length ⊢
      exact ⟨none, released.congr rfl rfl rfl, ⟨complete, fun _ => rfl, fun impossible =>
        absurd rfl impossible⟩, length.symm⟩
  | false =>
      have struck := player.typewriter.strike_next Alarm.strike timeline complete
      obtain ⟨next, left⟩ := player.typewriter.reveal.step_of_not_complete complete
      obtain ⟨timer, set⟩ := released.setTimer
      dsimp only at length line ⊢
      rw [struck] at length line ⊢
      refine ⟨some timer, set.congr rfl rfl rfl, ⟨complete, fun impossible => by contradiction,
        fun _ => ⟨dialogue, line, ?_, rfl, ?_⟩⟩, length.symm⟩
      · exact (Reveal.step_text _ _).trans text
      · show (player.typewriter.reveal.step 1).revealed < (player.typewriter.reveal.step 1).total
        rw [next, Reveal.step_total]
        exact left

def Tells (player next : Player κ) (events : List Event) : Prop :=
  ∃ typed told, next.seen = typed ++ (told ++ player.seen) ∧ player.Typing typed ∧
    told.map (·.event) = events.reverse ∧
    ∀ sight ∈ told, sight.At player.now player.place player.position.transitioning

theorem Types.tells (types : Types player next) : player.Tells next [] := by
  obtain ⟨typed, seen, typing⟩ := types.told
  exact ⟨typed, [], seen, typing, rfl, fun _ member => absurd member List.not_mem_nil⟩

theorem Tells.emit {event : Event} {events : List Event}
    (tells : (player.emit event).Tells next events) : player.Tells next (event :: events) := by
  obtain ⟨typed, told, seen, typing, names, there⟩ := tells
  refine ⟨typed, told ++ [⟨player.now, event, player.position⟩], ?_, typing, ?_, ?_⟩
  · rw [seen, List.append_assoc]
    rfl
  · simp [names]
  · intro sight member
    rcases List.mem_append.mp member with member | member
    · exact there sight member
    · obtain rfl := List.mem_singleton.mp member
      exact ⟨rfl, rfl, rfl⟩

theorem Tells.continues {events : List Event} (tells : player.Tells next events)
    (fine : ∀ event ∈ events, event.begins = false) : Continues player next := by
  obtain ⟨typed, told, seen, typing, names, _⟩ := tells
  refine ⟨typed ++ told, by rw [seen, List.append_assoc], ?_⟩
  intro sight member
  rcases List.mem_append.mp member with member | member
  · exact Event.begins_of_isTyping (typing sight member).1
  · apply fine
    rw [← List.mem_reverse, ← names]
    exact List.mem_map_of_mem member

def lineEvents (player : Player κ) : List Event :=
  (player.dialogue?.map fun dialogue =>
    .dialogueEnter player.position.scene player.position.dialogue dialogue).toList

theorem begins_lineEvents (player : Player κ) :
    ∀ event ∈ player.lineEvents, event.begins = false := by
  unfold lineEvents
  cases player.dialogue? <;> simp [Event.begins]

private theorem enterDialogue_of_none (missing : player.dialogue? = none) :
    player.enterDialogue = (player.withPosition fun position =>
      { position with revealed := 0, textLength := 0 }).stopTyping := by
  simp [enterDialogue, missing]

private theorem enterDialogue_of_some {dialogue : Dialogue}
    (found : player.dialogue? = some dialogue)
    (started : player.started = true) (unfinished : player.position.finished = false) :
    player.enterDialogue = ((player.withPosition fun position =>
      { position with revealed := 0, textLength := dialogue.text.length }).emit
        (.dialogueEnter player.position.scene player.position.dialogue dialogue)).typeLine
          dialogue := by
  have here : ((player.withPosition fun position =>
      { position with revealed := 0, textLength := dialogue.text.length }).emit
        (.dialogueEnter player.position.scene player.position.dialogue dialogue)).dialogue? =
      some dialogue := found
  simp only [Player.enterDialogue, found]
  unfold typeLine?
  simp only [withPosition] at here ⊢
  rw [here]
  simp [emit, started, unfinished]

/-- A line that is entered is told and then typed. -/
theorem Waits.enterDialogue (waits : player.Waits strike phase)
    (started : player.started = true) (unfinished : player.position.finished = false) :
    ∃ begun, player.enterDialogue.Lined begun phase ∧ Stays player player.enterDialogue ∧
      player.Tells player.enterDialogue player.lineEvents := by
  cases found : player.dialogue? with
  | none =>
      rw [enterDialogue_of_none found]
      have types := (types_reveal player 0 0).trans (types_stopTyping _)
      refine ⟨none, ⟨?_, ⟨?_, fun _ => rfl, fun impossible => absurd rfl impossible⟩, ?_⟩,
        types.stays, ?_⟩
      · have waiting : (player.withPosition fun position =>
            { position with revealed := 0, textLength := 0 }).Waits strike phase :=
          waits.congr rfl rfl rfl
        exact waiting.stopTyping
      · exact stopTyping_complete _
      · unfold lineLength
        rw [types.stays.dialogue?, found]
        rfl
      · simpa [lineEvents, found] using types.tells
  | some dialogue =>
      rw [enterDialogue_of_some found started unfinished]
      have reveals := (types_reveal player 0 dialogue.text.length).stays
      have waiting : ((player.withPosition fun position =>
          { position with revealed := 0, textLength := dialogue.text.length }).emit
            (.dialogueEnter player.position.scene player.position.dialogue dialogue)).Waits
          strike phase := waits.congr rfl rfl rfl
      have line : ((player.withPosition fun position =>
          { position with revealed := 0, textLength := dialogue.text.length }).emit
            (.dialogueEnter player.position.scene player.position.dialogue dialogue)).dialogue? =
          some dialogue := found
      obtain ⟨begun, lined⟩ := waiting.typeLine line
      refine ⟨begun, lined,
        (reveals.trans (stays_emit _ _)).trans (types_typeLine _ dialogue).stays, ?_⟩
      simp only [lineEvents, found, Option.map_some, Option.toList_some]
      exact (types_typeLine ((player.withPosition fun position =>
          { position with revealed := 0, textLength := dialogue.text.length }).emit
            (.dialogueEnter player.position.scene player.position.dialogue dialogue))
          dialogue).tells.emit

end VisualNovel.Playback.Player
